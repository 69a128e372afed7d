import Mathlib.Data.Rat.Floor
import Mathlib.Algebra.Order.Round

/-!
# The startup gate's per-sensor statistics

`nexus_n3/core/startup_gate.py` and the stability verdict of `nexus_n3/core/core.py`
(`_is_sensor_startup_stable` and the two thresholds it reads). Wall-clock times and
rates are exact rationals; a sensor timestamp is an integer number of microseconds.

A verdict is a function of the statistics alone: the gate threads only decide *when*
to ask for it.
-/

namespace NexusN3

/-- What a sensor callback hands to `Core._on_data`. -/
structure Sample where
  address : Option String
  timestamp : Option Int
  samplingRate : Option ℚ
  deriving DecidableEq

/-- Python's `int(x)` of a number: truncation toward zero. -/
def pyInt (q : ℚ) : Int := if 0 ≤ q then ⌊q⌋ else ⌈q⌉

/-- Python's `round(x)`: to the nearest integer, a tie to the even one. -/
def pyRound (q : ℚ) : Int :=
  let low := ⌊q⌋
  if q - low < 1 / 2 then low
  else if 1 / 2 < q - low then low + 1
  else if low % 2 = 0 then low else low + 1

/-- `int(value) if value else None`: a rate that is absent or zero is no rate. -/
def configuredRate (value : Option ℚ) : Option Int :=
  value.bind fun r => if r = 0 then none else some (pyInt r)

/-- `StartupGateSensorStats`: the metrics of one sensor during one start attempt. -/
structure StartupGateSensorStats where
  address : String
  location : Option String
  expectedRateHz : Option Int
  streamStartCommandTime : Option ℚ := none
  firstPacketTime : Option ℚ := none
  startupLastSensorTimestamp : Option Int := none
  startupFirstWallTime : Option ℚ := none
  startupLastWallTime : Option ℚ := none
  startupPacketsReceived : Nat := 0
  startupGapEvents : Nat := 0
  startupEstimatedDroppedPackets : Int := 0
  deriving DecidableEq

namespace StartupGateSensorStats

/-- `reset_for_attempt`: the identity and the expected rate survive, the metrics do not. -/
def resetForAttempt (st : StartupGateSensorStats) (startCommandTime : Option ℚ) :
    StartupGateSensorStats :=
  { address := st.address, location := st.location, expectedRateHz := st.expectedRateHz
    streamStartCommandTime := startCommandTime }

/-- `expected_delta_us`: the nominal packet period in microseconds. -/
def expectedDeltaUs (st : StartupGateSensorStats) : Option ℚ :=
  st.expectedRateHz.bind fun r => if r = 0 then none else some (1000000 / r)

/-- `_record_gap_if_needed`. -/
def recordGapIfNeeded (st : StartupGateSensorStats) (timestamp : Option Int) :
    StartupGateSensorStats :=
  match timestamp, st.startupLastSensorTimestamp, st.expectedDeltaUs with
  | some t, some last, some delta =>
    let observed : Int := t - last
    if observed ≤ pyInt (delta * (3 / 2)) then st
    else
      let missing := max (pyRound (observed / delta) - 1) 0
      if missing ≤ 0 then st
      else
        { st with
          startupGapEvents := st.startupGapEvents + 1
          startupEstimatedDroppedPackets := st.startupEstimatedDroppedPackets + missing }
  | _, _, _ => st

/-- `record_sample`. -/
def recordSample (st : StartupGateSensorStats) (sample : Sample) (wallTime : ℚ) :
    StartupGateSensorStats :=
  let st := if st.expectedRateHz = none then
      { st with expectedRateHz := configuredRate sample.samplingRate } else st
  let st := { st with firstPacketTime := st.firstPacketTime.or (some wallTime) }
  let st := match st.startupFirstWallTime with
    | none => { st with startupFirstWallTime := some wallTime }
    | some _ => st.recordGapIfNeeded sample.timestamp
  { st with
    startupLastSensorTimestamp := sample.timestamp
    startupLastWallTime := some wallTime
    startupPacketsReceived := st.startupPacketsReceived + 1 }

/-- `startup_duration_seconds`. -/
def startupDurationSeconds (st : StartupGateSensorStats) : ℚ :=
  match st.startupFirstWallTime, st.startupLastWallTime with
  | some first, some last => max (last - first) 0
  | _, _ => 0

/-- `startup_observed_rate_hz`. -/
def startupObservedRateHz (st : StartupGateSensorStats) : ℚ :=
  if st.startupDurationSeconds ≤ 0 ∨ st.startupPacketsReceived < 2 then 0
  else (st.startupPacketsReceived - 1) / st.startupDurationSeconds

end StartupGateSensorStats

/-- The thresholds `Core.__init__` sets and the gate reads. -/
structure StartupPolicy where
  packetsRequired : Nat := 60
  minPacketsRequired : Nat := 3
  minRateRatio : ℚ := 95 / 100
  minObservationSeconds : ℚ := 2
  maxAttempts : Nat := 1
  deriving DecidableEq

/-- `_required_startup_packets`. -/
def StartupPolicy.requiredStartupPackets (policy : StartupPolicy)
    (st : StartupGateSensorStats) : Int :=
  match st.expectedRateHz with
  | none => policy.packetsRequired
  | some r =>
    if r = 0 then policy.packetsRequired
    else max policy.minPacketsRequired
      (min policy.packetsRequired ⌈(r : ℚ) * policy.minObservationSeconds⌉)

/-- `_effective_startup_min_rate_hz`. -/
def StartupPolicy.effectiveStartupMinRateHz (policy : StartupPolicy)
    (st : StartupGateSensorStats) : Option ℚ :=
  st.expectedRateHz.bind fun r => if r = 0 then none else some (r * policy.minRateRatio)

/-- `_is_sensor_startup_stable`. -/
def StartupPolicy.isSensorStartupStable (policy : StartupPolicy)
    (st : StartupGateSensorStats) : Bool :=
  st.firstPacketTime.isSome
    && decide (policy.requiredStartupPackets st ≤ st.startupPacketsReceived)
    && decide (policy.minObservationSeconds ≤ st.startupDurationSeconds)
    && (match policy.effectiveStartupMinRateHz st with
      | none => true
      | some r => decide (r ≤ st.startupObservedRateHz))
    && decide (st.startupGapEvents = 0)
    && decide (st.startupEstimatedDroppedPackets ≤ 0)

end NexusN3
