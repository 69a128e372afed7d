import NexusN3.Core.StartupGate
import Mathlib.Algebra.Order.Field.Basic
import Mathlib.Tactic.FieldSimp
import Mathlib.Tactic.Linarith
import Mathlib.Tactic.Positivity
import Mathlib.Tactic.Ring

/-!
# The startup gate and an ideal stream

A sensor that delivers its packets exactly at its configured rate, and a stream with a gap in it,
before the startup gate. A period need not be a whole number of microseconds, so that the timestamps
are rational here.

* **`ExactStats`** — the statistics of an attempt over exact timestamps. Over whole ones they are
  those of the source (`exact_recordSample`).
* **`idealStats_eq`** — what an ideal stream has recorded.
* **`IdealAccepted`**, **`GapRejected`** — the two halves of what the gate is for.
* **`gate_exact_iff`** — it is that for the rates from 1 Hz on.
-/

namespace NexusN3

structure ExactSample where
  timestamp : Option ℚ
  samplingRate : Option ℚ

/-- What `record_sample` sets before it looks for a gap. -/
def StartupGateSensorStats.admitted (st : StartupGateSensorStats) (samplingRate : Option ℚ)
    (wallTime : ℚ) : StartupGateSensorStats :=
  { st with
    expectedRateHz := if st.expectedRateHz = none then configuredRate samplingRate
      else st.expectedRateHz
    firstPacketTime := st.firstPacketTime.or (some wallTime) }

/-- The metrics, whose own last timestamp stays unused. -/
structure ExactStats where
  metrics : StartupGateSensorStats
  lastTimestamp : Option ℚ

namespace ExactStats

/-- `_record_gap_if_needed`. -/
def recordGapIfNeeded (st : StartupGateSensorStats) (lastTimestamp timestamp : Option ℚ) :
    StartupGateSensorStats :=
  match timestamp, lastTimestamp, st.expectedDeltaUs with
  | some t, some last, some delta =>
    let observed : ℚ := t - last
    if observed ≤ pyInt (delta * (3 / 2)) then st
    else
      let missing := max (pyRound (observed / delta) - 1) 0
      if missing ≤ 0 then st
      else
        { st with
          startupGapEvents := st.startupGapEvents + 1
          startupEstimatedDroppedPackets := st.startupEstimatedDroppedPackets + missing }
  | _, _, _ => st

/-- The first packet starts the observation, a later one may come after a gap. -/
def arrive (st : StartupGateSensorStats) (lastTimestamp timestamp : Option ℚ) (wallTime : ℚ) :
    StartupGateSensorStats :=
  match st.startupFirstWallTime with
  | none => { st with startupFirstWallTime := some wallTime }
  | some _ => recordGapIfNeeded st lastTimestamp timestamp

/-- `record_sample`. -/
def recordSample (st : ExactStats) (sample : ExactSample) (wallTime : ℚ) : ExactStats :=
  let metrics := arrive (st.metrics.admitted sample.samplingRate wallTime) st.lastTimestamp
    sample.timestamp wallTime
  { metrics := { metrics with
      startupLastWallTime := some wallTime
      startupPacketsReceived := metrics.startupPacketsReceived + 1 }
    lastTimestamp := sample.timestamp }

/-- The packets of an attempt, each with its arrival time. -/
def record (st : ExactStats) (packets : List (ExactSample × ℚ)) : ExactStats :=
  packets.foldl (fun st packet => st.recordSample packet.1 packet.2) st

end ExactStats

/-- The statistics of the source, with its timestamp apart. -/
def StartupGateSensorStats.exact (st : StartupGateSensorStats) : ExactStats where
  metrics := { st with startupLastSensorTimestamp := none }
  lastTimestamp := st.startupLastSensorTimestamp.map (Int.cast : Int → ℚ)

def Sample.exact (sample : Sample) : ExactSample :=
  ⟨sample.timestamp.map (Int.cast : Int → ℚ), sample.samplingRate⟩

theorem exact_recordGapIfNeeded (st : StartupGateSensorStats) (timestamp : Option Int) :
    { st.recordGapIfNeeded timestamp with startupLastSensorTimestamp := none }
      = ExactStats.recordGapIfNeeded { st with startupLastSensorTimestamp := none }
          (st.startupLastSensorTimestamp.map Int.cast) (timestamp.map Int.cast) := by
  have hdelta : ({ st with startupLastSensorTimestamp := none } :
      StartupGateSensorStats).expectedDeltaUs = st.expectedDeltaUs := rfl
  unfold StartupGateSensorStats.recordGapIfNeeded ExactStats.recordGapIfNeeded
  rw [hdelta]
  cases timestamp with
  | none => rfl
  | some t =>
    cases st.startupLastSensorTimestamp with
    | none => rfl
    | some last =>
      cases st.expectedDeltaUs with
      | none => rfl
      | some delta =>
        simp only [Option.map_some, ← Int.cast_sub, Int.cast_le]
        split
        · rfl
        · split
          · rfl
          · rfl

theorem StartupGateSensorStats.recordSample_eq (st : StartupGateSensorStats) (sample : Sample)
    (wallTime : ℚ) :
    st.recordSample sample wallTime =
      let metrics := st.admitted sample.samplingRate wallTime
      let metrics := match metrics.startupFirstWallTime with
        | none => { metrics with startupFirstWallTime := some wallTime }
        | some _ => metrics.recordGapIfNeeded sample.timestamp
      { metrics with
        startupLastSensorTimestamp := sample.timestamp
        startupLastWallTime := some wallTime
        startupPacketsReceived := metrics.startupPacketsReceived + 1 } := by
  unfold StartupGateSensorStats.recordSample StartupGateSensorStats.admitted
  split
  · rfl
  · rfl

/-- Over whole timestamps the exact statistics are those of the source. -/
theorem exact_recordSample (st : StartupGateSensorStats) (sample : Sample) (wallTime : ℚ) :
    (st.recordSample sample wallTime).exact = st.exact.recordSample sample.exact wallTime := by
  have hadmitted : st.exact.metrics.admitted sample.exact.samplingRate wallTime
      = { st.admitted sample.samplingRate wallTime with startupLastSensorTimestamp := none } := rfl
  have hlast : st.exact.lastTimestamp
      = (st.admitted sample.samplingRate wallTime).startupLastSensorTimestamp.map Int.cast := rfl
  have htimestamp : sample.exact.timestamp = sample.timestamp.map Int.cast := rfl
  rw [StartupGateSensorStats.recordSample_eq]
  unfold ExactStats.recordSample
  rw [hadmitted, hlast, htimestamp]
  generalize st.admitted sample.samplingRate wallTime = metrics
  unfold ExactStats.arrive
  dsimp only
  rw [← exact_recordGapIfNeeded]
  cases metrics.startupFirstWallTime with
  | none => rfl
  | some first => rfl

/-! ## Gaps -/

theorem two_le_pyRound {q : ℚ} (h : 3 / 2 < q) : 2 ≤ pyRound q := by
  have hlow : (1 : Int) ≤ ⌊q⌋ := Int.le_floor.mpr (by push_cast; linarith)
  unfold pyRound
  dsimp only
  split
  · rename_i hfrac
    -- at 1 the fraction is more than a half
    by_contra hless
    obtain hone : ⌊q⌋ = 1 := by omega
    rw [hone] at hfrac
    push_cast at hfrac
    linarith
  · split
    · omega
    · split
      · omega
      · omega

theorem pyRound_le_one {q : ℚ} (h : q ≤ 1) : pyRound q ≤ 1 := by
  have hlow : ⌊q⌋ ≤ 1 := by
    have := Int.floor_le_floor h
    rwa [Int.floor_one] at this
  unfold pyRound
  dsimp only
  rcases hlow.lt_or_eq with hless | hone
  · split
    · omega
    · split
      · omega
      · split
        · omega
        · omega
  · rw [hone, if_pos (by push_cast; linarith)]

section Gaps

variable {st : StartupGateSensorStats} {delta last t : ℚ}

/-- A step of more than one and a half expected periods is a gap. -/
theorem gapEvents_of_gap (hdelta : st.expectedDeltaUs = some delta) (hpos : 0 < delta)
    (hgap : 3 / 2 * delta < t - last) :
    0 < (ExactStats.recordGapIfNeeded st (some last) (some t)).startupGapEvents := by
  have hlimit : ¬ t - last ≤ pyInt (delta * (3 / 2)) := by
    have hint : (pyInt (delta * (3 / 2)) : ℚ) ≤ delta * (3 / 2) := by
      rw [pyInt, if_pos (by positivity)]
      exact Int.floor_le _
    linarith
  have hround : 2 ≤ pyRound ((t - last) / delta) :=
    two_le_pyRound (by rw [lt_div_iff₀ hpos]; exact hgap)
  unfold ExactStats.recordGapIfNeeded
  rw [hdelta]
  dsimp only
  rw [if_neg hlimit, if_neg (by omega)]
  exact Nat.succ_pos _

/-- A step of at most one expected period is none. -/
theorem recordGapIfNeeded_of_le
    (hstep : ∀ delta, st.expectedDeltaUs = some delta → 0 < delta ∧ t - last ≤ delta) :
    ExactStats.recordGapIfNeeded st (some last) (some t) = st := by
  unfold ExactStats.recordGapIfNeeded
  cases hdelta : st.expectedDeltaUs with
  | none => rfl
  | some delta =>
    obtain ⟨hpos, hle⟩ := hstep delta hdelta
    have hround : pyRound ((t - last) / delta) ≤ 1 :=
      pyRound_le_one ((div_le_one hpos).mpr hle)
    dsimp only
    split
    · rfl
    · rw [if_pos (by omega)]

theorem gapEvents_le_recordGapIfNeeded (st : StartupGateSensorStats) (last t : Option ℚ) :
    st.startupGapEvents ≤ (ExactStats.recordGapIfNeeded st last t).startupGapEvents := by
  unfold ExactStats.recordGapIfNeeded
  split
  · dsimp only
    split
    · exact Nat.le_refl _
    · split
      · exact Nat.le_refl _
      · exact Nat.le_succ _
  · exact Nat.le_refl _

theorem expectedRateHz_recordGapIfNeeded (st : StartupGateSensorStats) (last t : Option ℚ) :
    (ExactStats.recordGapIfNeeded st last t).expectedRateHz = st.expectedRateHz := by
  unfold ExactStats.recordGapIfNeeded
  split
  · dsimp only
    split
    · rfl
    · split
      · rfl
      · rfl
  · rfl

end Gaps

/-! ## A run of packets -/

namespace ExactStats

@[simp] theorem record_nil (st : ExactStats) : st.record [] = st := rfl

@[simp] theorem record_append (st : ExactStats) (before after : List (ExactSample × ℚ)) :
    st.record (before ++ after) = (st.record before).record after :=
  List.foldl_append

@[simp] theorem record_cons (st : ExactStats) (packet : ExactSample × ℚ)
    (after : List (ExactSample × ℚ)) :
    st.record (packet :: after) = (st.recordSample packet.1 packet.2).record after := rfl

@[simp] theorem lastTimestamp_recordSample (st : ExactStats) (sample : ExactSample) (wallTime : ℚ) :
    (st.recordSample sample wallTime).lastTimestamp = sample.timestamp := rfl

theorem gapEvents_le_arrive (st : StartupGateSensorStats) (last t : Option ℚ) (wallTime : ℚ) :
    st.startupGapEvents ≤ (arrive st last t wallTime).startupGapEvents := by
  unfold arrive
  split
  · exact Nat.le_refl _
  · exact gapEvents_le_recordGapIfNeeded _ _ _

theorem expectedRateHz_arrive (st : StartupGateSensorStats) (last t : Option ℚ) (wallTime : ℚ) :
    (arrive st last t wallTime).expectedRateHz = st.expectedRateHz := by
  unfold arrive
  split
  · rfl
  · exact expectedRateHz_recordGapIfNeeded _ _ _

/-- The gaps of an attempt stay counted. -/
theorem gapEvents_le_record (st : ExactStats) (packets : List (ExactSample × ℚ)) :
    st.metrics.startupGapEvents ≤ (st.record packets).metrics.startupGapEvents := by
  induction packets generalizing st with
  | nil => exact Nat.le_refl _
  | cons packet packets ih =>
    rw [record_cons]
    exact (gapEvents_le_arrive (st.metrics.admitted packet.1.samplingRate packet.2) _ _ _).trans
      (ih (st.recordSample packet.1 packet.2))

/-- Once a packet has come, the observation has started. -/
theorem firstWallTime_recordSample (st : ExactStats) (sample : ExactSample) (wallTime : ℚ) :
    (st.recordSample sample wallTime).metrics.startupFirstWallTime.isSome = true := by
  show (arrive _ _ _ _).startupFirstWallTime.isSome = true
  unfold arrive
  cases hfirst : (st.metrics.admitted sample.samplingRate wallTime).startupFirstWallTime with
  | none => rfl
  | some first =>
    dsimp only
    unfold recordGapIfNeeded
    split
    · dsimp only
      split
      · rw [hfirst]
        rfl
      · split
        · rw [hfirst]
          rfl
        · exact Option.isSome_of_eq_some hfirst
    · rw [hfirst]
      rfl

theorem expectedDeltaUs_recordSample (st : ExactStats) (sample : ExactSample) (wallTime : ℚ) :
    (st.recordSample sample wallTime).metrics.expectedDeltaUs
      = (st.metrics.admitted sample.samplingRate wallTime).expectedDeltaUs := by
  have hrate : (st.recordSample sample wallTime).metrics.expectedRateHz
      = (st.metrics.admitted sample.samplingRate wallTime).expectedRateHz :=
    expectedRateHz_arrive _ _ _ _
  unfold StartupGateSensorStats.expectedDeltaUs
  rw [hrate]

/-- Two packets one after another with a gap between them. -/
theorem gapEvents_of_step {st : ExactStats} {first second : ExactSample × ℚ} {t t' delta : ℚ}
    (hfirst : first.1.timestamp = some t) (hsecond : second.1.timestamp = some t')
    (hdelta : (st.record [first, second]).metrics.expectedDeltaUs = some delta) (hpos : 0 < delta)
    (hgap : 3 / 2 * delta < t' - t) :
    0 < (st.record [first, second]).metrics.startupGapEvents := by
  have hstarted := firstWallTime_recordSample st first.1 first.2
  rw [record_cons, record_cons, record_nil, expectedDeltaUs_recordSample] at hdelta
  rw [record_cons, record_cons, record_nil]
  show 0 < (arrive _ (st.recordSample first.1 first.2).lastTimestamp _ _).startupGapEvents
  rw [lastTimestamp_recordSample, hfirst, hsecond]
  unfold arrive
  obtain ⟨start, hstart⟩ := Option.isSome_iff_exists.mp hstarted
  have hstart' : ((st.recordSample first.1 first.2).metrics.admitted second.1.samplingRate
      second.2).startupFirstWallTime = some start := hstart
  rw [hstart']
  exact gapEvents_of_gap hdelta hpos hgap

end ExactStats

/-- The statistics at the start of an attempt. `value` is the configured `SAMPLING_RATE`. -/
def startAttempt (value : Option ℚ) (address : String) (location : Option String)
    (startCommandTime : Option ℚ) : StartupGateSensorStats :=
  StartupGateSensorStats.resetForAttempt
    { address := address, location := location, expectedRateHz := configuredRate value }
    startCommandTime

/-- After a step of more than one and a half expected periods between two packets, one right after
the other, a sensor is not stable again in the attempt. -/
def GapRejected (policy : StartupPolicy) : Prop :=
  ∀ value address location startCommandTime before first second after t t' delta,
    first.1.timestamp = some t → second.1.timestamp = some t' →
    ((startAttempt value address location startCommandTime).exact.record
      (before ++ [first, second])).metrics.expectedDeltaUs = some delta →
    0 < delta → 3 / 2 * delta < t' - t →
    policy.isSensorStartupStable
      ((startAttempt value address location startCommandTime).exact.record
        (before ++ first :: second :: after)).metrics = false

theorem not_stable_of_gap (policy : StartupPolicy) {st : StartupGateSensorStats}
    (hgap : 0 < st.startupGapEvents) : policy.isSensorStartupStable st = false := by
  have hsome : decide (st.startupGapEvents = 0) = false := decide_eq_false (by omega)
  unfold StartupPolicy.isSensorStartupStable
  rw [hsome, Bool.and_false, Bool.false_and]

theorem gap_rejected (policy : StartupPolicy) : GapRejected policy := by
  intro value address location startCommandTime before first second after t t' delta hfirst hsecond
    hdelta hpos hgap
  rw [ExactStats.record_append] at hdelta
  have hone := ExactStats.gapEvents_of_step hfirst hsecond hdelta hpos hgap
  have hall : before ++ first :: second :: after = before ++ ([first, second] ++ after) := rfl
  rw [hall, ExactStats.record_append, ExactStats.record_append]
  generalize (startAttempt value address location startCommandTime).exact.record before = st at *
  have hlater := ExactStats.gapEvents_le_record (st.record [first, second]) after
  exact not_stable_of_gap policy (hone.trans_le hlater)

/-! ## An ideal stream -/

section Ideal

variable (r : ℚ) (origin start : ℚ) (samplingRates : Nat → Option ℚ)

/-- The first `n + 1` packets, one every `1 / r` seconds. The first one has the timestamp `origin`
and comes at `start`; what rate a sample names is not restricted. -/
def idealPackets (n : Nat) : List (ExactSample × ℚ) :=
  (List.range (n + 1)).map fun k : Nat =>
    (⟨some (origin + k * (1000000 / r)), samplingRates k⟩, start + k / r)

def idealStats (address : String) (location : Option String) (startCommandTime : Option ℚ)
    (n : Nat) : ExactStats where
  metrics :=
    { address := address
      location := location
      expectedRateHz := some ⌊r⌋
      streamStartCommandTime := startCommandTime
      firstPacketTime := some start
      startupFirstWallTime := some start
      startupLastWallTime := some (start + n / r)
      startupPacketsReceived := n + 1 }
  lastTimestamp := some (origin + n * (1000000 / r))

/-- The period is at most the expected one, which is that of the truncated rate. -/
theorem ideal_step (hr : 0 < r) (address : String) (location : Option String)
    (startCommandTime : Option ℚ) (n : Nat) (wallTime : ℚ) :
    ExactStats.arrive (idealStats r origin start address location startCommandTime n).metrics
        (idealStats r origin start address location startCommandTime n).lastTimestamp
        (some (origin + (n + 1 : Nat) * (1000000 / r))) wallTime
      = (idealStats r origin start address location startCommandTime n).metrics := by
  show ExactStats.recordGapIfNeeded _ (some _) (some _) = _
  apply recordGapIfNeeded_of_le
  intro delta hdelta
  have hfloor : 0 ≤ ⌊r⌋ := Int.floor_nonneg.mpr hr.le
  have hdelta' : (if ⌊r⌋ = 0 then none else some (1000000 / (⌊r⌋ : ℚ))) = some delta := hdelta
  split at hdelta'
  · cases hdelta'
  · rename_i hne
    obtain rfl := Option.some.inj hdelta'
    have hone : (1 : ℚ) ≤ ⌊r⌋ := by
      have : 1 ≤ ⌊r⌋ := by omega
      exact_mod_cast this
    have hle : (⌊r⌋ : ℚ) ≤ r := Int.floor_le r
    refine ⟨by positivity, ?_⟩
    have hperiod : origin + (n + 1 : Nat) * (1000000 / r) - (origin + n * (1000000 / r))
        = 1000000 / r := by
      push_cast
      ring
    rw [hperiod]
    exact div_le_div_of_nonneg_left (by norm_num) (by linarith) hle

theorem idealStats_eq (hr : 0 < r) (address : String) (location : Option String)
    (startCommandTime : Option ℚ) (n : Nat) :
    (startAttempt (some r) address location startCommandTime).exact.record
        (idealPackets r origin start samplingRates n)
      = idealStats r origin start address location startCommandTime n := by
  have hrate : configuredRate (some r) = some ⌊r⌋ := by
    show (if r = 0 then none else some (pyInt r)) = some ⌊r⌋
    rw [if_neg hr.ne', pyInt, if_pos hr.le]
  induction n with
  | zero =>
    simp [idealPackets, idealStats, ExactStats.recordSample, ExactStats.arrive, startAttempt, hrate,
      StartupGateSensorStats.exact, StartupGateSensorStats.admitted,
      StartupGateSensorStats.resetForAttempt]
  | succ n ih =>
    have hpackets : idealPackets r origin start samplingRates (n + 1)
        = idealPackets r origin start samplingRates n ++
          [(⟨some (origin + (n + 1 : Nat) * (1000000 / r)), samplingRates (n + 1)⟩,
            start + (n + 1 : Nat) / r)] := by
      unfold idealPackets
      rw [List.range_succ, List.map_append]
      rfl
    rw [hpackets, ExactStats.record_append, ih, ExactStats.record_cons, ExactStats.record_nil]
    have hadmitted : (idealStats r origin start address location startCommandTime
        n).metrics.admitted (samplingRates (n + 1)) (start + (n + 1 : Nat) / r)
        = (idealStats r origin start address location startCommandTime n).metrics := rfl
    unfold ExactStats.recordSample
    rw [hadmitted, ideal_step r origin start hr]
    rfl

/-- What the gate reads of the ideal stream: the packets, the duration and the rate. -/
theorem stable_ideal_iff (policy : StartupPolicy) (hr : 0 < r) (address : String)
    (location : Option String) (startCommandTime : Option ℚ) (n : Nat)
    (hobservation : 0 < policy.minObservationSeconds) :
    policy.isSensorStartupStable
        (idealStats r origin start address location startCommandTime n).metrics = true ↔
      policy.requiredStartupPackets
          (idealStats r origin start address location startCommandTime n).metrics ≤ (n + 1 : Nat) ∧
        policy.minObservationSeconds ≤ n / r ∧
          (⌊r⌋ ≠ 0 → ⌊r⌋ * policy.minRateRatio ≤ r) := by
  have hduration : (idealStats r origin start address location startCommandTime
      n).metrics.startupDurationSeconds = n / r := by
    show max (start + n / r - start) 0 = n / r
    rw [add_sub_cancel_left]
    exact max_eq_left (by positivity)
  have hobserved (hn : policy.minObservationSeconds ≤ n / r) : (idealStats r origin start address
      location startCommandTime n).metrics.startupObservedRateHz = r := by
    have hpos : 0 < (n : ℚ) / r := hobservation.trans_le hn
    have hne : (n : ℚ) ≠ 0 := fun hzero => by simp [hzero] at hpos
    have hmany : ¬ n + 1 < 2 := by
      have : n ≠ 0 := by exact_mod_cast hne
      omega
    have hreceived : (idealStats r origin start address location startCommandTime
        n).metrics.startupPacketsReceived = n + 1 := rfl
    unfold StartupGateSensorStats.startupObservedRateHz
    rw [hduration, hreceived, if_neg (not_or.mpr ⟨hpos.not_ge, hmany⟩)]
    push_cast
    field_simp
    ring
  unfold StartupPolicy.isSensorStartupStable
  rw [hduration]
  have hrate : policy.effectiveStartupMinRateHz
      (idealStats r origin start address location startCommandTime n).metrics
      = if ⌊r⌋ = 0 then none else some (⌊r⌋ * policy.minRateRatio) := rfl
  rw [hrate]
  simp only [Bool.and_eq_true, decide_eq_true_eq]
  constructor
  · rintro ⟨⟨⟨⟨⟨-, hrequired⟩, hn⟩, hratio⟩, -⟩, -⟩
    refine ⟨hrequired, hn, fun hne => ?_⟩
    rw [if_neg hne, hobserved hn] at hratio
    exact of_decide_eq_true hratio
  · rintro ⟨hrequired, hn, hratio⟩
    refine ⟨⟨⟨⟨⟨rfl, hrequired⟩, hn⟩, ?_⟩, rfl⟩, le_refl _⟩
    by_cases hne : ⌊r⌋ = 0
    · rw [if_pos hne]
    · rw [if_neg hne, hobserved hn]
      exact decide_eq_true (hratio hne)

end Ideal

/-- An ideal stream of a sensor configured with the rate `r` is stable from the first packet on at
which it has been observed long enough, and not before. -/
def IdealAccepted (policy : StartupPolicy) (r : ℚ) : Prop :=
  ∀ origin start samplingRates address location startCommandTime n,
    policy.isSensorStartupStable
      ((startAttempt (some r) address location startCommandTime).exact.record
        (idealPackets r origin start samplingRates n)).metrics = true ↔
      policy.minObservationSeconds ≤ n / r

theorem requiredStartupPackets_le {r : ℚ} (hr : 1 ≤ r) (origin start : ℚ) (address : String)
    (location : Option String) (startCommandTime : Option ℚ) {n : Nat} (hn : 2 ≤ n / r) :
    StartupPolicy.requiredStartupPackets {}
      (idealStats r origin start address location startCommandTime n).metrics ≤ (n + 1 : Nat) := by
  have hone : 1 ≤ ⌊r⌋ := Int.le_floor.mpr (by exact_mod_cast hr)
  have hpos : 0 < r := by linarith
  have hmany : 2 * ⌊r⌋ ≤ (n : Int) := by
    have hle : (⌊r⌋ : ℚ) ≤ r := Int.floor_le r
    have htwo : 2 * r ≤ n := (le_div_iff₀ hpos).mp hn
    have : (2 * ⌊r⌋ : ℚ) ≤ (n : Int) := by
      push_cast
      linarith
    exact_mod_cast this
  have hceil : ⌈(⌊r⌋ : ℚ) * 2⌉ = ⌊r⌋ * 2 := by
    rw [← Int.ceil_intCast (R := ℚ) (⌊r⌋ * 2)]
    push_cast
    rfl
  show (if ⌊r⌋ = 0 then ((60 : Nat) : Int)
    else max ((3 : Nat) : Int) (min ((60 : Nat) : Int) ⌈(⌊r⌋ : ℚ) * 2⌉)) ≤ _
  rw [if_neg (by omega), hceil]
  omega

/-- Below 1 Hz the truncated rate is no rate, and 60 packets are required. -/
theorem not_idealAccepted {r : ℚ} (hr : 0 < r) (hlow : r < 1) : ¬ IdealAccepted {} r := by
  intro haccepted
  have hlong : StartupPolicy.minObservationSeconds {} ≤ (2 : Nat) / r := by
    show (2 : ℚ) ≤ (2 : Nat) / r
    rw [le_div_iff₀ hr]
    push_cast
    linarith
  have hstable := (haccepted 0 0 (fun _ => none) "" none none 2).mpr hlong
  rw [idealStats_eq r 0 0 (fun _ => none) hr,
    stable_ideal_iff r 0 0 {} hr _ _ _ _ (by norm_num)] at hstable
  have hzero : ⌊r⌋ = 0 := Int.floor_eq_zero_iff.mpr ⟨hr.le, hlow⟩
  have hrequired : StartupPolicy.requiredStartupPackets {}
      (idealStats r 0 0 "" none none 2).metrics = 60 := if_pos hzero
  have hfew := hstable.1
  rw [hrequired] at hfew
  omega

/-- **The gate is exact** for the rates from 1 Hz on, and for no other positive ones. -/
theorem gate_exact_iff (r : ℚ) (hr : 0 < r) :
    IdealAccepted {} r ∧ GapRejected {} ↔ 1 ≤ r := by
  rw [and_iff_left (gap_rejected {})]
  constructor
  · intro haccepted
    by_contra hlow
    exact not_idealAccepted hr (lt_of_not_ge hlow) haccepted
  · intro hone origin start samplingRates address location startCommandTime n
    rw [idealStats_eq r origin start samplingRates hr,
      stable_ideal_iff r origin start {} hr _ _ _ _ (by norm_num)]
    constructor
    · exact fun h => h.2.1
    · intro hn
      refine ⟨requiredStartupPackets_le hone origin start address location startCommandTime hn, hn,
        fun _ => ?_⟩
      have hle : (⌊r⌋ : ℚ) ≤ r := Int.floor_le r
      show (⌊r⌋ : ℚ) * (95 / 100) ≤ r
      linarith

theorem gate_exact_iff_one : (0 : ℚ) < 1 ∧ (IdealAccepted {} 1 ∧ GapRejected {} ↔ (1 : ℚ) ≤ 1) :=
  ⟨by norm_num, gate_exact_iff 1 (by norm_num)⟩

/-- A packet every two seconds fits the window of three seconds. -/
theorem gate_not_exact : ¬ ∀ r : ℚ, 0 < r → 1 / r ≤ 3 → IdealAccepted {} r ∧ GapRejected {} := by
  intro h
  exact not_idealAccepted (by norm_num) (by norm_num) (h (1 / 2) (by norm_num) (by norm_num)).1

end NexusN3
