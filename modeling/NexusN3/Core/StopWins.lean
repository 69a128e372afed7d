import NexusN3.Core.Settle

/-!
# A full stop against starts, gates and commits

After a full stop has returned, and until the next start is accepted, the Core should be
down: nothing streams, no output is open, no sample is admitted (`Down`). The gate thread
keeps this: it compares its token with the current one in every locked section. The commit
does not, since `start_official_stream` reads no token after its first section; nor does a
start that was accepted before the stop and arms the gate after it; and a gate whose token
is current can still open the outputs while the physical stop is pending, which the stop
then finds streaming and leaves alone.

* **`StopSafe`** — the step is none of these three (`SafeSection`);
* **`StopInv`** — the invariant of such steps: while a full stop is in flight every commit in
  flight is outdated, and once it returned every gate and every commit is;
* **`stopWins_of_stopSafe`** — runs of such steps keep the Core down;
* **`stopWins_commit_race`** — a commit that overlaps a full stop, and streams after it.
-/

namespace NexusN3

open Lib

/-- What a full stop that returned should leave. -/
structure Core.Down (c : Core) : Prop where
  streaming : ∀ s ∈ c.subjects, s.isStreaming = false
  outputs : c.officialOutputsActive = false
  phase : c.streamPhase ≠ .officialStreaming
  samples : ∀ address, c.admits address = false

/-- The subjects of the stop are marked, and no exception of its body is pending. -/
def StopStage.marked : StopStage → Bool
  | .close | .release false | .finish false => true
  | _ => false

namespace Thread

/-- The gate token a gate, retry or commit thread was started with. -/
def token? : Thread → Option Nat
  | .gate k | .gatePreparing k | .gatePrepared k _ | .retry k => some k
  | .commit k | .commitFailed k | .commitActivated k | .commitReporting k _
  | .commitFinishing k => some k
  | _ => none

def commitToken? : Thread → Option Nat
  | .commit k | .commitFailed k | .commitActivated k | .commitReporting k _
  | .commitFinishing k => some k
  | _ => none

theorem token?_of_commitToken? {t : Thread} {k : Nat} (h : t.commitToken? = some k) :
    t.token? = some k := by
  cases t <;> first | exact h | cases h

end Thread

namespace World

/-- **The condition on a section.** A gate acts on a stable startup only with no full stop in
flight; a commit goes on only under the token it began with; a start accepted before a full
stop does not arm the gate after it. -/
def SafeSection (w : World) (env : SectionEnv) : Thread → Prop
  | .gate k =>
    (w.core.gateDecide k env.activation).2 = .stale
      ∨ (w.core.gateDecide k env.activation).2 = .unstable ∨ ¬ w.FullStopInFlight
  | .commit k | .commitFinishing k => k = w.core.startupGateToken
  | .startWritten _ => w.stopReturned = false
  | _ => True

/-- Every step but a section is safe. -/
def StopSafe (w : World) : Action → Prop
  | .advance i env => ∀ t ∈ w.threads[i]?, w.SafeSection env t
  | _ => True

instance (w : World) (env : SectionEnv) (t : Thread) : Decidable (w.SafeSection env t) :=
  match t with
  | .gate _ => inferInstanceAs (Decidable (_ ∨ _ ∨ _))
  | .commit _ | .commitFinishing _ => inferInstanceAs (Decidable (_ = _))
  | .startWritten _ => inferInstanceAs (Decidable (_ = _))
  | .startAccepted _ _ | .gatePreparing _ | .gatePrepared _ _ | .gateReady _ | .retry _
  | .commitFailed _ | .commitActivated _ | .commitReporting _ _ | .stop _ _ _ _ | .done =>
    inferInstanceAs (Decidable True)

instance (w : World) (a : Action) : Decidable (w.StopSafe a) :=
  match a with
  | .advance i env => inferInstanceAs (Decidable (∀ t ∈ w.threads[i]?, w.SafeSection env t))
  | .startStream _ | .startStreamForSubjects _ | .startOfficialStream _ | .stopStream _ _
  | .stopStreamForSubjects _ _ _ | .initCore _ | .resetSession _ | .resetFinished _
  | .onStreamStarted | .onStreamStopped | .onData _ _ | .gateTimeout _ | .stopRaise _ =>
    inferInstanceAs (Decidable True)

/-- A full stop's claim on the Core: it holds every position of the list it was given, and
what it has marked stays down. A list that replaced that one came in with no flag up. -/
structure HoldsStop (c : Core) (r : StopRequest) (stage : StopStage) : Prop where
  generation : r.generation ≤ c.subjectsGeneration
  covers : r.generation = c.subjectsGeneration → ∀ i < c.subjects.length, i ∈ r.idxs
  quiet : stage.marked = true ∨ r.generation ≠ c.subjectsGeneration → c.Quiet

/-- What holds after a full stop returned. -/
structure Halted (w : World) : Prop where
  quiet : w.core.Quiet
  outputs : w.core.officialOutputsActive = false
  resting : w.core.Resting
  outdated : ∀ t ∈ w.threads, ∀ k, t.token? = some k → k < w.core.startupGateToken

structure StopInv (w : World) : Prop where
  tokens : ∀ t ∈ w.threads, ∀ k, t.token? = some k → k ≤ w.core.startupGateToken
  calm : w.FullStopInFlight → w.core.streamPhase.calm = true
  commits : w.FullStopInFlight → ∀ t ∈ w.threads, ∀ k, t.commitToken? = some k →
    k < w.core.startupGateToken
  stops : ∀ r env stage, .stop r env true stage ∈ w.threads → HoldsStop w.core r stage
  returned : w.stopReturned = true → Halted w

/-- A Core at rest with its flags down is down. -/
theorem Halted.down {w : World} (h : Halted w) : w.core.Down := by
  have hphase : w.core.streamPhase ≠ .officialStreaming := by
    intro hph
    have hrest := h.resting.1
    rw [hph] at hrest
    cases hrest
  refine ⟨Core.hasActiveStreams_eq_false_iff.mp h.quiet, h.outputs, hphase, ?_⟩
  intro address
  simp [Core.admits, Core.officialStreaming, hphase]

/-! ## Steps that start nothing official -/

/-- A thread of the next world that continues one of this world's, or is new and harmless. -/
structure Inherits (w : World) (c' : Core) (t' : Thread) : Prop where
  token : ∀ k, t'.token? = some k → k ≤ c'.startupGateToken
  commit : ∀ k, t'.commitToken? = some k → ∃ t ∈ w.threads, t.commitToken? = some k
  stop : ∀ r env stage', t' = .stop r env true stage' → ∃ stage,
    .stop r env true stage ∈ w.threads ∧ (stage'.marked = true → stage.marked = true ∨ c'.Quiet)

theorem HoldsStop.next {c c' : Core} {r : StopRequest} {stage stage' : StopStage}
    (h : HoldsStop c r stage) (hsub : c.Subdues c')
    (hmark : stage'.marked = true → stage.marked = true ∨ c'.Quiet) : HoldsStop c' r stage' := by
  have hkept : stage.marked = true ∨ r.generation ≠ c.subjectsGeneration → c'.Quiet :=
    fun hc => hsub.quiet (h.quiet hc)
  rcases hsub.list with ⟨hgen, hlen⟩ | ⟨hgen, hquiet⟩
  · refine ⟨hgen ▸ h.generation, ?_, ?_⟩
    · rw [hgen, hlen]
      exact h.covers
    · rintro (hm | hne)
      · rcases hmark hm with hold | hquiet
        · exact hkept (.inl hold)
        · exact hquiet
      · exact hkept (.inr (hgen ▸ hne))
  · -- the list was replaced: the stop holds no position of the new one
    have hlt : r.generation < c'.subjectsGeneration := h.generation.trans_lt hgen
    exact ⟨hlt.le, fun heq => absurd heq hlt.ne, fun _ => hquiet⟩

/-- Steps that start nothing official and continue the threads there are keep the
invariant, up to what they do to a returned stop. -/
theorem StopInv.next {w w' : World} (h : StopInv w) (hsub : w.core.Subdues w'.core)
    (hthreads : ∀ t ∈ w'.threads, t ∈ w.threads ∨ Inherits w w'.core t)
    (hret : w'.stopReturned = true → Halted w') : StopInv w' := by
  have hflight : w'.FullStopInFlight → w.FullStopInFlight := by
    rintro ⟨r, env, stage, hmem⟩
    rcases hthreads _ hmem with hold | hnew
    · exact ⟨r, env, stage, hold⟩
    · obtain ⟨stage₀, hold, -⟩ := hnew.stop r env stage rfl
      exact ⟨r, env, stage₀, hold⟩
  refine ⟨?_, fun hf => hsub.calm (h.calm (hflight hf)), ?_, ?_, hret⟩
  · intro t ht k hk
    rcases hthreads t ht with hold | hnew
    · exact (h.tokens t hold k hk).trans hsub.token
    · exact hnew.token k hk
  · intro hf t ht k hk
    rcases hthreads t ht with hold | hnew
    · exact (h.commits (hflight hf) t hold k hk).trans_le hsub.token
    · obtain ⟨t₀, ht₀, hk₀⟩ := hnew.commit k hk
      exact (h.commits (hflight hf) t₀ ht₀ k hk₀).trans_le hsub.token
  · intro r env stage hmem
    rcases hthreads _ hmem with hold | hnew
    · exact (h.stops r env stage hold).next hsub fun hm => .inl hm
    · obtain ⟨stage₀, hold, hmark⟩ := hnew.stop r env stage rfl
      exact (h.stops r env stage₀ hold).next hsub hmark

/-- With no full stop in flight or returned, only the tokens matter. -/
theorem StopInv.of_free {w : World} (hfree : ¬ w.FullStopInFlight) (hret : w.stopReturned = false)
    (htokens : ∀ t ∈ w.threads, ∀ k, t.token? = some k → k ≤ w.core.startupGateToken) :
    StopInv w := by
  refine ⟨htokens, fun hf => absurd hf hfree, fun hf => absurd hf hfree, ?_, ?_⟩
  · intro r env stage hmem
    exact absurd ⟨r, env, stage, hmem⟩ hfree
  · intro htrue
    rw [hret] at htrue
    cases htrue

/-- A Core at rest stays halted when no thread is newer than it. -/
theorem Halted.next {w w' : World} (h : Halted w) (hset : w.core.Settles w'.core)
    (hthreads : ∀ t ∈ w'.threads, ∀ k, t.token? = some k →
      ∃ t₀ ∈ w.threads, t₀.token? = some k) : Halted w' := by
  refine ⟨hset.quiet h.quiet, hset.outputs h.outputs, hset.rest h.resting, ?_⟩
  intro t ht k hk
  obtain ⟨t₀, ht₀, hk₀⟩ := hthreads t ht k hk
  exact (h.outdated t₀ ht₀ k hk₀).trans_le hset.token

/-- A step that only settles the Core, with the threads as they were. -/
theorem StopInv.setCore {w : World} (h : StopInv w) {c : Core} (hset : w.core.Settles c) :
    StopInv (w.setCore c) := by
  refine h.next hset.toSubdues (fun t ht => .inl ht) ?_
  intro hret
  exact (h.returned hret).next hset fun t ht k hk => ⟨t, ht, hk⟩

/-! ## The sections of a thread -/

/-- A thread's continuation: the same call, under the same token. -/
structure Continues (t t' : Thread) (c' : Core) : Prop where
  token : ∀ k, t'.token? = some k → t.token? = some k
  commit : ∀ k, t'.commitToken? = some k → t.commitToken? = some k
  stop : ∀ r env stage', t' = .stop r env true stage' → ∃ stage,
    t = .stop r env true stage ∧ (stage'.marked = true → stage.marked = true ∨ c'.Quiet)

theorem Continues.done (t : Thread) (c' : Core) : Continues t .done c' := by
  refine ⟨?_, ?_, ?_⟩
  · intro k h
    cases h
  · intro k h
    cases h
  · intro r env stage' h
    cases h

/-- Outside a stop a continuation has nothing to mark. -/
theorem Continues.of_tokens {t t' : Thread} {c' : Core} (htoken : t'.token? = t.token?)
    (hcommit : t'.commitToken? = t.commitToken?)
    (hstop : t'.isFullStop = false) : Continues t t' c' := by
  refine ⟨fun _ h => htoken ▸ h, fun _ h => hcommit ▸ h, fun r env stage h => ?_⟩
  rw [h] at hstop
  cases hstop

/-- A continuing section that settles the Core keeps the invariant; a returned stop is
reported apart. -/
theorem StopInv.advance {w w' : World} (h : StopInv w) {i : Nat} {t t' : Thread}
    (ht : w.threads[i]? = some t) (hthreads : w'.threads = w.threads.set i t')
    (hsub : w.core.Subdues w'.core) (hcont : Continues t t' w'.core)
    (hret : w'.stopReturned = true → Halted w') : StopInv w' := by
  have hmem : t ∈ w.threads := List.mem_of_getElem? ht
  refine h.next hsub ?_ hret
  intro u hu
  rw [hthreads] at hu
  rcases List.mem_or_eq_of_mem_set hu with hold | rfl
  · exact .inl hold
  · refine .inr ⟨?_, ?_, ?_⟩
    · intro k hk
      exact (h.tokens t hmem k (hcont.token k hk)).trans hsub.token
    · intro k hk
      exact ⟨t, hmem, hcont.commit k hk⟩
    · intro r env stage' heq
      obtain ⟨stage, rfl, hmark⟩ := hcont.stop r env stage' heq
      exact ⟨stage, hmem, hmark⟩

theorem Halted.advance {w w' : World} (h : Halted w) {i : Nat} {t t' : Thread}
    (ht : w.threads[i]? = some t) (hthreads : w'.threads = w.threads.set i t')
    (hset : w.core.Settles w'.core) (hcont : Continues t t' w'.core) : Halted w' := by
  refine h.next hset ?_
  intro u hu k hk
  rw [hthreads] at hu
  rcases List.mem_or_eq_of_mem_set hu with hold | rfl
  · exact ⟨u, hold, hk⟩
  · exact ⟨t, List.mem_of_getElem? ht, hcont.token k hk⟩

/-- The invariant reads the Core, the threads and the one ghost. -/
theorem StopInv.congr {w w' : World} (h : StopInv w) (hcore : w'.core = w.core)
    (hthreads : w'.threads = w.threads) (hret : w'.stopReturned = w.stopReturned) :
    StopInv w' := by
  cases w
  cases w'
  cases hcore
  cases hthreads
  cases hret
  exact ⟨h.tokens, h.calm, h.commits, h.stops, fun hr => ⟨(h.returned hr).quiet,
    (h.returned hr).outputs, (h.returned hr).resting, (h.returned hr).outdated⟩⟩

/-- A section of a call other than a stop that settles the Core. -/
theorem StopInv.settled {w : World} (h : StopInv w) {i : Nat} {t t' : Thread} {c : Core}
    (events : List CoreEvent) (ht : w.threads[i]? = some t) (hset : w.core.Settles c)
    (hcont : Continues t t' c) : StopInv (((w.setCore c).setThread i t').emit events) := by
  refine h.advance ht rfl hset.toSubdues hcont ?_
  intro hret
  exact (h.returned hret).advance ht rfl hset hcont

/-- A section that goes on towards official streaming, with no full stop in flight. -/
theorem StopInv.unhindered {w : World} (h : StopInv w) {i : Nat} {t t' : Thread} {c : Core}
    (events : List CoreEvent) (ht : w.threads[i]? = some t) (hfree : ¬ w.FullStopInFlight)
    (hret : w.stopReturned = false) (htoken : c.startupGateToken = w.core.startupGateToken)
    (hcont : Continues t t' c) : StopInv (((w.setCore c).setThread i t').emit events) := by
  have hmem : t ∈ w.threads := List.mem_of_getElem? ht
  refine StopInv.of_free ?_ hret ?_
  · rintro ⟨r, env, stage, hstop⟩
    rcases List.mem_or_eq_of_mem_set hstop with hold | heq
    · exact hfree ⟨r, env, stage, hold⟩
    · obtain ⟨stage₀, rfl, -⟩ := hcont.stop r env stage heq.symm
      exact hfree ⟨r, env, stage₀, hmem⟩
  · intro u hu k hk
    show k ≤ c.startupGateToken
    rw [htoken]
    rcases List.mem_or_eq_of_mem_set hu with hold | rfl
    · exact h.tokens u hold k hk
    · exact h.tokens t hmem k (hcont.token k hk)

/-- A commit under the current token meets no full stop, in flight or returned. -/
theorem StopInv.commit_free {w : World} (h : StopInv w) {t : Thread} (hmem : t ∈ w.threads)
    (hk : t.commitToken? = some w.core.startupGateToken) :
    ¬ w.FullStopInFlight ∧ w.stopReturned = false := by
  constructor
  · intro hf
    exact absurd (h.commits hf t hmem _ hk) (lt_irrefl _)
  · by_contra hret
    rw [Bool.not_eq_false] at hret
    exact absurd ((h.returned hret).outdated t hmem _ (Thread.token?_of_commitToken? hk))
      (lt_irrefl _)

/-! ### The gate -/

theorem gateDecide_outdated {c : Core} {k : Nat} (env : ActivationEnv)
    (h : k ≠ c.startupGateToken) : c.gateDecide k env = (c, .stale) := by
  simp [Core.gateDecide, h]

/-- A verdict that is not acted on changes nothing. -/
theorem gateDecide_waits {c c' : Core} {k : Nat} {env : ActivationEnv} {out : Core.GateOutcome}
    (h : c.gateDecide k env = (c', out)) (hout : out = .stale ∨ out = .unstable) : c' = c := by
  unfold Core.gateDecide at h
  split at h
  · cases h
    rfl
  · split at h
    · cases h
      rfl
    · split at h
      · cases h
        rcases hout with hout | hout <;> cases hout
      · split at h <;> cases h <;> rcases hout with hout | hout <;> cases hout

theorem gateDecide_token (c : Core) (k : Nat) (env : ActivationEnv) :
    (c.gateDecide k env).1.startupGateToken = c.startupGateToken := by
  have hact := Core.activate_field (c.setPhase .activatingOfficial) env Core.startupGateToken
    fun _ => rfl
  unfold Core.gateDecide
  split
  · rfl
  · split
    · rfl
    · split
      · rfl
      · split <;> rename_i heq <;> rw [heq] at hact <;> exact hact

theorem stopInv_gate {w w' : World} {i k : Nat} {env : SectionEnv} (h : StopInv w)
    (ht : w.threads[i]? = some (.gate k)) (hok : w.StopSafe (.advance i env))
    (hstep : w.step (.advance i env) = some w') : StopInv w' := by
  obtain ⟨t, c, t', events, ht', hadv, rfl⟩ := step_advance hstep
  rw [ht] at ht'
  cases ht'
  rw [noteStop_of_not_stop (by nofun)]
  have hcont : Continues (.gate k) t' c := by
    simp only [Thread.advance] at hadv
    split at hadv <;> cases hadv <;> first
      | exact Continues.done _ _
      | exact Continues.of_tokens rfl rfl rfl
  have hcore : c = (w.core.gateDecide k env.activation).1 := by
    simp only [Thread.advance] at hadv
    split at hadv <;> rename_i heq <;> cases hadv <;> rw [heq]
  replace hok := hok _ ht
  simp only [SafeSection] at hok
  cases hg : w.core.gateDecide k env.activation with
  | mk c₁ out =>
    rw [hg] at hcore hok
    cases hcore
    by_cases hwait : out = .stale ∨ out = .unstable
    · have hsame : c₁ = w.core := gateDecide_waits hg hwait
      rw [hsame] at hcont ⊢
      exact h.settled events ht (.refl _) hcont
    · have hfree : ¬ w.FullStopInFlight := by
        rcases hok with hs | hu | hf
        · exact absurd (.inl hs) hwait
        · exact absurd (.inr hu) hwait
        · exact hf
      -- a gate that still acts has the current token, so no full stop has returned
      have hret : w.stopReturned = false := by
        by_contra hret
        rw [Bool.not_eq_false] at hret
        have hlt := (h.returned hret).outdated _ (List.mem_of_getElem? ht) k rfl
        rw [gateDecide_outdated _ hlt.ne] at hg
        cases hg
        exact hwait (.inl rfl)
      have htoken : c₁.startupGateToken = w.core.startupGateToken := by
        have := gateDecide_token w.core k env.activation
        rwa [hg] at this
      exact h.unhindered events ht hfree hret htoken hcont

/-! ### The sections of a stop -/

/-- The marking section of a full stop takes every flag down. -/
theorem HoldsStop.quiet_stopMark {c : Core} {r : StopRequest} (h : HoldsStop c r .mark) :
    (c.stopMark r).Quiet := by
  by_cases hgen : r.generation = c.subjectsGeneration
  · unfold Core.Quiet
    rw [Core.hasActiveStreams_eq_false_iff]
    intro t ht
    simp only [Core.stopMark, Core.updateStopped, hgen, if_true] at ht
    obtain ⟨i, s, hs, rfl⟩ := mem_updateAt ht
    have hi : i ∈ r.idxs := h.covers hgen i (List.getElem?_eq_some_iff.mp hs).1
    rw [if_pos hi]
    rfl
  · have hsame : c.stopMark r = c := by
      unfold Core.stopMark Core.updateStopped
      rw [if_neg hgen]
    rw [hsame]
    exact h.quiet (.inr hgen)

/-- A later section of the stop is marked because the one before it was, or because it has
just marked. -/
theorem stopStage_marked {c : Core} {r : StopRequest} {env : StopEnv} {stage next : StopStage}
    (h : HoldsStop c r stage) (hnext : (stage.advance c r env).2 = some next)
    (hmarked : next.marked = true) :
    stage.marked = true ∨ (stage.advance c r env).1.Quiet := by
  cases stage with
  | mark => exact .inr h.quiet_stopMark
  | close => exact .inl rfl
  | release raised =>
    cases hnext
    cases raised with
    | false => exact .inl rfl
    | true => cases hmarked
  | finish raised => cases hnext
  | _ =>
    cases hnext
    cases hmarked

/-- The end of a full stop whose body did not raise: the gate is cleared, and every token in
flight is an old one. -/
theorem StopInv.halted_finish {w : World} (h : StopInv w) {i : Nat} {r : StopRequest}
    {env : StopEnv} (ht : w.threads[i]? = some (.stop r env true (.finish false))) {w' : World}
    (hcore : w'.core = w.core.stopFinish) (hthreads : w'.threads = w.threads.set i .done) :
    Halted w' := by
  have hquiet : w.core.Quiet :=
    (h.stops r env _ (List.mem_of_getElem? ht)).quiet (.inl rfl)
  rw [Core.stopFinish_of_quiet hquiet] at hcore
  refine ⟨?_, ?_, ?_, ?_⟩
  · rw [hcore]
    exact hquiet
  · rw [hcore]
    rfl
  · rw [hcore]
    exact ⟨rfl, rfl⟩
  · intro u hu k hk
    rw [hthreads] at hu
    rw [hcore]
    show k < w.core.startupGateToken + 1
    rcases List.mem_or_eq_of_mem_set hu with hold | rfl
    · exact Nat.lt_succ_of_le (h.tokens u hold k hk)
    · cases hk

theorem stopInv_stop {w : World} (h : StopInv w) {i : Nat} {r : StopRequest} {env : StopEnv}
    {full : Bool} {stage : StopStage} (ht : w.threads[i]? = some (.stop r env full stage))
    {senv : SectionEnv} {w' : World} (hstep : w.step (.advance i senv) = some w') : StopInv w' := by
  obtain ⟨t, c, t', events, ht', hadv, rfl⟩ := step_advance hstep
  rw [ht] at ht'
  cases ht'
  have hset := Core.settles_stopStage w.core r env stage
  simp only [Thread.advance] at hadv
  have hcore : c = (stage.advance w.core r env).1 := by
    split at hadv <;> rename_i heq <;> cases hadv <;> rw [heq]
  have hcont : Continues (.stop r env full stage) t' c := by
    split at hadv
    · rename_i c' next heq
      cases hadv
      refine ⟨fun k hk => hk, fun k hk => hk, ?_⟩
      rintro r' env' stage' heq'
      cases heq'
      refine ⟨stage, rfl, fun hmarked => ?_⟩
      have hhold := h.stops r env stage (List.mem_of_getElem? ht)
      rw [hcore]
      exact stopStage_marked hhold (by rw [heq]) hmarked
    · cases hadv
      exact Continues.done _ _
  rw [← hcore] at hset
  -- only the last section of a full stop touches what the invariant says of a returned one
  by_cases hlast : full = true ∧ stage = .finish false
  · obtain ⟨rfl, rfl⟩ := hlast
    cases hadv
    exact h.advance ht rfl hset.toSubdues hcont fun _ => h.halted_finish ht rfl rfl
  · have hkept : ∀ v : World,
        (v.noteStop (.stop r env full stage)).stopReturned = v.stopReturned := by
      intro v
      cases full with
      | false => rfl
      | true =>
        cases stage with
        | finish raised =>
          cases raised with
          | false => exact absurd ⟨rfl, rfl⟩ hlast
          | true => rfl
        | _ => rfl
    exact (h.settled events ht hset hcont).congr (noteStop_core _ _) (noteStop_threads _ _) (hkept _)

/-! ### Every section -/

theorem stopInv_advance {w w' : World} {i : Nat} {env : SectionEnv} (h : StopInv w)
    (hok : w.StopSafe (.advance i env)) (hstep : w.step (.advance i env) = some w') :
    StopInv w' := by
  obtain ⟨t, c, t', events, ht, hadv, heq⟩ := step_advance hstep
  have hmem : t ∈ w.threads := List.mem_of_getElem? ht
  cases t with
  | gate k => exact stopInv_gate h ht hok hstep
  | stop r senv full stage => exact stopInv_stop h ht hstep
  | done => cases hadv
  | startAccepted p specific =>
    subst heq
    cases specific with
    | false =>
      cases hadv
      exact h.settled _ ht (Core.settles_startAllWrites _ p _) (.of_tokens rfl rfl rfl)
    | true =>
      have hset := Core.settles_startSubjectsWrites w.core p env.clock
      simp only [Thread.advance] at hadv
      split at hadv <;> rename_i hw <;> cases hadv <;> rw [hw] at hset
      · exact h.settled _ ht hset (.done _ _)
      · exact h.settled _ ht hset (.of_tokens rfl rfl rfl)
  | startWritten idxs =>
    subst heq
    cases hadv
    -- not after a stop has returned: the condition
    replace hok := hok _ ht
    refine h.advance ht rfl (Core.subdues_startArm _ idxs _) (.done _ _) ?_
    intro hret
    have htrue : w.stopReturned = true := hret
    rw [hok] at htrue
    cases htrue
  | gatePreparing k =>
    subst heq
    have hset := (Core.prepareOfficialPersistence_same w.core env.activation.outputFailure).settles
    simp only [Thread.advance] at hadv
    split at hadv <;> rename_i hp <;> cases hadv <;> rw [hp] at hset <;>
      exact h.settled _ ht hset (.of_tokens rfl rfl rfl)
  | gatePrepared k failure =>
    subst heq
    cases failure with
    | some e =>
      cases hadv
      exact h.settled _ ht (Core.settles_gatePrepareFailed _ k e) (.done _ _)
    | none =>
      simp only [Thread.advance] at hadv
      split at hadv
      · cases hadv
        exact h.settled _ ht (.refl _) (.done _ _)
      · rename_i hready
        cases hadv
        refine h.settled _ ht (Core.settles_gateReady hready) ⟨?_, ?_, by nofun⟩ <;> intro k hk <;> cases hk
  | gateReady sid =>
    subst heq
    cases hadv
    exact h.settled _ ht (.refl _) (.done _ _)
  | retry k =>
    subst heq
    cases hadv
    exact h.settled _ ht (Core.settles_retryStartup _ k _) (.done _ _)
  | commit k =>
    subst heq
    replace hok := hok _ ht
    -- its token is current, so no full stop is in flight or has returned
    obtain ⟨hfree, hret⟩ := h.commit_free hmem (congrArg some hok)
    have htoken := Core.activate_field w.core env.activation Core.startupGateToken fun _ => rfl
    simp only [Thread.advance] at hadv
    split at hadv <;> rename_i hact <;> cases hadv <;> rw [hact] at htoken <;>
      exact h.unhindered _ ht hfree hret htoken (.of_tokens rfl rfl rfl)
  | commitFailed k =>
    subst heq
    cases hadv
    exact h.settled _ ht (Core.settles_commitRollback _) (.done _ _)
  | commitActivated k =>
    subst heq
    cases hadv
    exact h.settled _ ht (.refl _) (.of_tokens rfl rfl rfl)
  | commitReporting k sid =>
    subst heq
    cases hadv
    exact h.settled _ ht (.refl _) (.of_tokens rfl rfl rfl)
  | commitFinishing k =>
    subst heq
    cases hadv
    replace hok := hok _ ht
    obtain ⟨hfree, hret⟩ := h.commit_free hmem (congrArg some hok)
    exact h.unhindered _ ht hfree hret rfl (.done _ _)

/-! ## Commands and callbacks -/

/-- A thread that is started settles nothing by itself; its token is current. -/
theorem StopInv.spawn {w : World} (h : StopInv w) {c : Core} {ts : List Thread}
    (hset : w.core.Settles c) (htoken : ∀ t ∈ ts, ∀ k, t.token? = some k → k ≤ c.startupGateToken)
    (hcommit : ∀ t ∈ ts, ∀ k, t.commitToken? = some k → ¬ w.FullStopInFlight)
    (hstop : ∀ r env stage, .stop r env true stage ∉ ts)
    (hret : w.stopReturned = true → ∀ t ∈ ts, t.token? = none) :
    StopInv ((w.setCore c).spawn ts) := by
  -- no stop is started, so one in flight was there before
  have hflight : ((w.setCore c).spawn ts).FullStopInFlight → w.FullStopInFlight := by
    rintro ⟨r, env, stage, hmem⟩
    rcases List.mem_append.mp hmem with hold | hnew
    · exact ⟨r, env, stage, hold⟩
    · exact absurd hnew (hstop r env stage)
  have hbase := h.setCore hset
  refine ⟨?_, fun hf => hbase.calm (hflight hf), ?_, ?_, ?_⟩
  · intro t ht k hk
    rcases List.mem_append.mp ht with hold | hnew
    · exact hbase.tokens t hold k hk
    · exact htoken t hnew k hk
  · intro hf t ht k hk
    rcases List.mem_append.mp ht with hold | hnew
    · exact hbase.commits (hflight hf) t hold k hk
    · exact absurd (hflight hf) (hcommit t hnew k hk)
  · intro r env stage hmem
    rcases List.mem_append.mp hmem with hold | hnew
    · exact hbase.stops r env stage hold
    · exact absurd hnew (hstop r env stage)
  · intro hr
    have hh := hbase.returned hr
    refine ⟨hh.quiet, hh.outputs, hh.resting, ?_⟩
    intro t ht k hk
    rcases List.mem_append.mp ht with hold | hnew
    · exact hh.outdated t hold k hk
    · rw [hret hr t hnew] at hk
      cases hk

/-- A start that is accepted ends what the last stop had to guarantee. -/
theorem stopInv_acceptStart {w : World} (h : StopInv w) (p : StartPayload) (specific : Bool) :
    StopInv (w.acceptStart p specific) := by
  unfold acceptStart
  split
  · exact h
  · rename_i c hacc
    refine h.next (Core.subdues_startAccept hacc) ?_ (by nofun)
    intro t ht
    rcases List.mem_append.mp ht with hold | hnew
    · exact .inl hold
    · rw [List.mem_singleton.mp hnew]
      exact .inr ⟨by nofun, by nofun, by nofun⟩

/-- The entry of a full stop leaves no subject out, so it moves the phase and the token. -/
theorem stopEnter_of_covers {c : Core} {r : StopRequest} (hids : r.subjectIds = c.idsAt r.idxs)
    (hcov : ∀ i < c.subjects.length, i ∈ r.idxs) :
    (c.stopEnter r).streamPhase.calm = true
      ∧ (c.stopEnter r).startupGateToken = c.startupGateToken + 1 := by
  have hother : c.otherSubjectsActive r.subjectIds = false := by
    unfold Core.otherSubjectsActive
    rw [List.any_eq_false]
    intro s hs
    obtain ⟨i, hi⟩ := List.mem_iff_getElem?.mp hs
    have hmem : s.subjectId ∈ r.subjectIds := by
      rw [hids, Core.idsAt, List.mem_filterMap]
      exact ⟨i, hcov i (List.getElem?_eq_some_iff.mp hi).1, by rw [hi]; rfl⟩
    simp [hmem]
  unfold Core.stopEnter
  dsimp only
  rw [hother]
  refine ⟨?_, rfl⟩
  rw [if_neg Bool.false_ne_true, Core.stopGate]
  dsimp only
  cases c.streamPhase <;> rfl

theorem stopInv_beginStop {w : World} (h : StopInv w) {r : StopRequest} (env : StopEnv)
    (hids : r.subjectIds = w.core.idsAt r.idxs)
    (hgen : r.generation = w.core.subjectsGeneration) : StopInv (w.beginStop r env) := by
  have hset := Core.settles_stopEnter w.core r
  cases hfull : r.covers w.core with
  | false =>
    unfold beginStop
    rw [hfull]
    refine h.spawn hset ?_ ?_ ?_ ?_
    · intro t ht k hk
      rw [List.mem_singleton.mp ht] at hk
      cases hk
    · intro t ht k hk
      rw [List.mem_singleton.mp ht] at hk
      cases hk
    · intro r' env' stage hmem
      cases List.mem_singleton.mp hmem
    · intro _ t ht
      rw [List.mem_singleton.mp ht]
      rfl
  | true =>
    have hcov : ∀ i < w.core.subjects.length, i ∈ r.idxs := by
      simpa [StopRequest.covers] using hfull
    obtain ⟨hcalm, htoken⟩ := stopEnter_of_covers hids hcov
    have hbase := h.setCore hset
    have hthread : ∀ t ∈ (w.beginStop r env).threads,
        t ∈ w.threads ∨ t = .stop r env true .issue := by
      intro t ht
      unfold beginStop at ht
      rw [hfull] at ht
      rcases List.mem_append.mp ht with hold | hnew
      · exact .inl hold
      · exact .inr (List.mem_singleton.mp hnew)
    have hcore : (w.beginStop r env).core = w.core.stopEnter r := rfl
    refine ⟨?_, fun _ => hcore ▸ hcalm, ?_, ?_, ?_⟩
    · intro t ht k hk
      rcases hthread t ht with hold | rfl
      · exact hbase.tokens t hold k hk
      · cases hk
    · intro _ t ht k hk
      rcases hthread t ht with hold | rfl
      · -- whatever commit is in flight began before this token
        rw [hcore, htoken]
        exact Nat.lt_succ_of_le (h.tokens t hold k (Thread.token?_of_commitToken? hk))
      · cases hk
    · intro r' env' stage hmem
      rcases hthread _ hmem with hold | heq
      · exact hbase.stops r' env' stage hold
      · cases heq
        have hsame : Core.SameList w.core (w.core.stopEnter r) := by
          unfold Core.stopEnter
          dsimp only
          split <;> exact ⟨rfl, rfl⟩
        refine ⟨(hgen.trans hsame.1.symm).le, fun _ => ?_, ?_⟩
        · rw [hcore, hsame.2]
          exact hcov
        · rintro (hm | hne)
          · cases hm
          · exact absurd (hgen.trans hsame.1.symm) hne
    · intro hr
      have hh := hbase.returned hr
      refine ⟨hh.quiet, hh.outputs, hh.resting, ?_⟩
      intro t ht k hk
      rcases hthread t ht with hold | rfl
      · exact hh.outdated t hold k hk
      · cases hk

theorem stopAllRequest_ids (c : Core) (sid : Option String) :
    (c.stopAllRequest sid).subjectIds = c.idsAt (c.stopAllRequest sid).idxs := by
  show c.subjects.map Subject.subjectId = _
  simp only [Core.stopAllRequest, Core.idsAt]
  apply List.ext_getElem?
  intro i
  rw [List.getElem?_map]
  have hall : (List.range c.subjects.length).filterMap
      (fun j => c.subjects[j]?.map Subject.subjectId) = c.subjects.map Subject.subjectId := by
    induction c.subjects using List.reverseRecOn with
    | nil => rfl
    | append_singleton l s ih =>
      rw [List.length_append, List.length_singleton, List.range_succ, List.filterMap_append,
        List.map_append]
      congr 1
      · rw [← ih]
        refine List.filterMap_congr fun j hj => ?_
        rw [List.getElem?_append_left (List.mem_range.mp hj)]
      · simp
  rw [hall, List.getElem?_map]

theorem mem_spawnGate {c : Core} {t : Thread} (h : t ∈ (c.gateStarted.map Thread.gate).toList) :
    ∃ token, c.gateStarted = some token ∧ t = .gate token := by
  rw [Option.mem_toList, Option.map_eq_some_iff] at h
  obtain ⟨token, htoken, rfl⟩ := h
  exact ⟨token, htoken, rfl⟩

/-- A commit that begins finds the Core ready, so no stop holds it down. -/
theorem stopInv_commitBegin {w : World} (h : StopInv w) {p : Core.CommitPayload} {c : Core}
    (hbegin : w.core.commitBegin p = .begin c) :
    StopInv ((w.setCore c).spawn [.commit w.core.startupGateToken]) := by
  have hready := (Core.commitBegin_eq_begin hbegin).2.2.2.1
  have hset := Core.settles_commitBegin hbegin
  refine h.spawn hset ?_ ?_ ?_ ?_
  · intro t ht k hk
    rw [List.mem_singleton.mp ht] at hk
    cases hk
    exact hset.token
  · intro t ht k hk hf
    have hcalm := h.calm hf
    rw [hready] at hcalm
    cases hcalm
  · intro r env stage hmem
    cases List.mem_singleton.mp hmem
  · intro hr
    have hrest := (h.returned hr).resting.1
    rw [hready] at hrest
    cases hrest

theorem stopInv_onStreamStarted {w : World} (h : StopInv w) :
    StopInv ((w.setCore w.core.onStreamStarted).spawn
      (w.core.gateStarted.map Thread.gate).toList) := by
  refine h.spawn (Core.settles_onStreamStarted _) ?_ ?_ ?_ ?_
  · intro t ht k hk
    obtain ⟨token, hgate, rfl⟩ := mem_spawnGate ht
    cases hk
    unfold Core.gateStarted at hgate
    split at hgate
    · cases hgate
    · cases hgate
      exact (Core.settles_onStreamStarted w.core).token
  · intro t ht k hk
    obtain ⟨token, -, rfl⟩ := mem_spawnGate ht
    cases hk
  · intro r env stage hmem
    simp at hmem
  · intro hr t ht
    -- a Core at rest has no address left for a late callback to warm up
    obtain ⟨token, hgate, rfl⟩ := mem_spawnGate ht
    simp [Core.gateStarted, (h.returned hr).resting.2] at hgate

theorem stopInv_onStreamStopped {w : World} (h : StopInv w) :
    StopInv ((w.setCore w.core.onStreamStopped).spawn
      (if w.core.retryDue then [.retry w.core.startupGateToken] else [])) := by
  refine h.spawn (Core.settles_onStreamStopped _) ?_ ?_ ?_ ?_
  · intro t ht k hk
    split at ht
    · rw [List.mem_singleton.mp ht] at hk
      cases hk
      exact (Core.settles_onStreamStopped w.core).token
    · cases ht
  · intro t ht k hk
    split at ht
    · rw [List.mem_singleton.mp ht] at hk
      cases hk
    · cases ht
  · intro r env stage hmem
    split at hmem
    · cases List.mem_singleton.mp hmem
    · cases hmem
  · intro hr t ht
    have hrest := (h.returned hr).resting.1
    split at ht
    · rename_i hdue
      -- a retry is due in one phase, and it is not the one a stop leaves
      have hretry : w.core.streamPhase = .retryingStartup := by
        simp only [Core.retryDue, Bool.and_eq_true, decide_eq_true_eq] at hdue
        exact hdue.1.1
      rw [hretry] at hrest
      cases hrest
    · cases ht

theorem stopInv_step {w w' : World} {a : Action} (hok : w.StopSafe a)
    (hstep : w.step a = some w') (h : StopInv w) : StopInv w' := by
  cases a with
  | startStream p =>
    cases hstep
    exact stopInv_acceptStart h p false
  | startStreamForSubjects p =>
    cases hstep
    exact stopInv_acceptStart h p true
  | startOfficialStream p =>
    simp only [step] at hstep
    split at hstep
    · rename_i c hbegin
      cases hstep
      exact stopInv_commitBegin h hbegin
    · cases hstep
      exact h.congr rfl rfl rfl
    · cases hstep
      exact h
    · cases hstep
      exact h
  | stopStream sid env =>
    cases hstep
    exact stopInv_beginStop h env (stopAllRequest_ids _ sid) rfl
  | stopStreamForSubjects ids sid env =>
    simp only [step] at hstep
    split at hstep
    · rename_i r hr
      cases hstep
      obtain ⟨-, hids, hgen⟩ := Core.stopSubjectsRequest_eq_ok hr
      exact stopInv_beginStop h env hids hgen
    · cases hstep
      exact h
  | initCore outcome =>
    cases hstep
    exact h.setCore (Core.settles_initCore _ outcome)
  | resetSession refusal =>
    cases hstep
    exact h.setCore (Core.settles_resetSession _ refusal)
  | resetFinished report =>
    simp only [step] at hstep
    split at hstep
    · cases hstep
      exact h.setCore (Core.settles_resetFinished _ report)
    · cases hstep
  | onStreamStarted =>
    cases hstep
    exact stopInv_onStreamStarted h
  | onStreamStopped =>
    cases hstep
    exact stopInv_onStreamStopped h
  | onData sample now =>
    cases hstep
    exact h.setCore (Core.settles_onData _ sample now)
  | advance i env => exact stopInv_advance h hok hstep
  | gateTimeout i =>
    simp only [step] at hstep
    split at hstep
    · rename_i k ht
      cases hstep
      exact (h.settled [] ht (Core.settles_gateTimeout _ k) (.done _ _)).congr rfl rfl rfl
    · cases hstep
  | stopRaise i =>
    simp only [step] at hstep
    split at hstep
    · rename_i r env full stage ht
      split at hstep
      · cases hstep
        have hcont : Continues (.stop r env full stage) (.stop r env full (.release true))
            w.core.stopAbort := by
          refine ⟨fun k hk => hk, fun k hk => hk, ?_⟩
          intro r' env' stage' heq
          cases heq
          exact ⟨stage, rfl, by nofun⟩
        exact (h.settled [] ht (Core.settles_stopAbort _) hcont).congr rfl rfl rfl
      · cases hstep
    · cases hstep

/-! ## The result -/

theorem stopInv_init (policy : StartupPolicy) : StopInv { core := { policy := policy } } := by
  refine StopInv.of_free ?_ rfl (List.forall_mem_nil _)
  rintro ⟨r, env, stage, hmem⟩
  exact absurd hmem List.not_mem_nil

/-- **Stop wins, where its rivals look at the token.** In a run of safe steps the Core is
down from the return of a full stop to the next accepted start. -/
theorem stopWins_of_stopSafe (policy : StartupPolicy) {w : World}
    (hrun : Machine.Run step StopSafe { core := { policy := policy } } w)
    (hret : w.stopReturned = true) : w.core.Down := by
  have hinv : StopInv w :=
    hrun.invariant (stopInv_init policy) fun _ _ _ hok hstep h => stopInv_step hok hstep h
  exact (hinv.returned hret).down

/-! ## The two kinds of run -/

/-- A local session that reaches official streaming and is then stopped. -/
def stoppedSession : List Action :=
  warmedUp {} ++ sectionsOf 1 1 ++ [.stopStream none { physical := .nothing }] ++ sectionsOf 2 7

/-- A run whose full stop returns, checked by evaluating it. -/
theorem stopWins_of_stopSafe_stoppedSession :
    ∃ w, Machine.Run step StopSafe { core := { policy := {} } } w
      ∧ w.stopReturned = true ∧ w.core.Down := by
  have hrun : (Machine.execOk step StopSafe { core := { policy := {} } } stoppedSession).map
      (fun w => w.stopReturned) = some true := by decide +kernel
  obtain ⟨w, hw, hret⟩ := Option.map_eq_some_iff.mp hrun
  have hsafe := Machine.Run.of_execOk stoppedSession hw
  exact ⟨w, hsafe, hret, stopWins_of_stopSafe {} hsafe hret⟩

/-- The commit is received, and the full stop goes through its sections while the commit
activates: after the marking, before the last section. -/
def commitRace : List Action :=
  warmedUp coordinatedStart ++ sectionsOf 1 4
    ++ [.startOfficialStream { startSessionId := some "start-1" }]
    ++ [.stopStream none { physical := .nothing }] ++ sectionsOf 3 4
    ++ sectionsOf 2 1 ++ sectionsOf 3 3 ++ sectionsOf 2 3

/-- **A stop that loses.** After the full stop returned, with no start accepted since, the
subject streams, the outputs are open and its samples are admitted. -/
theorem stopWins_commit_race :
    ∃ w, World.Reachable {} w ∧ w.stopReturned = true
      ∧ w.core.subjects.map Subject.isStreaming = [true] ∧ w.core.officialOutputsActive = true
      ∧ w.core.streamPhase = .officialStreaming ∧ w.core.admits (some "AA") = true
      ∧ ¬ w.core.Down := by
  have hrun : (Machine.exec step { core := { policy := {} } } commitRace).map
      (fun w => (w.stopReturned, w.core.subjects.map Subject.isStreaming,
        w.core.officialOutputsActive, w.core.streamPhase, w.core.admits (some "AA")))
      = some (true, [true], true, .officialStreaming, true) := by decide +kernel
  obtain ⟨w, hw, hfields⟩ := Option.map_eq_some_iff.mp hrun
  simp only [Prod.mk.injEq] at hfields
  obtain ⟨hret, hflags, hout, hphase, hadmits⟩ := hfields
  refine ⟨w, Machine.reach_of_exec commitRace hw, hret, hflags, hout, hphase, hadmits, ?_⟩
  intro hdown
  exact hdown.phase hphase

end World

end NexusN3
