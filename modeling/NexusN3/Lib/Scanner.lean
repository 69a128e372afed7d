import Mathlib.Data.List.Basic

/-!
# Scanners — reading a stream that arrives in pieces

A scanner looks at what has arrived and either waits or takes a token off the front. Its
two laws say that a token is never empty, and that a decision once possible stays the same
whatever arrives later. They are all that is needed for the result of a scan to be
independent of how the stream was cut:

* **`Scanner.scan_append`** — scanning `a ++ b` is scanning `a`, and then `b` behind what
  was left of `a`.
* **`Scanner.feedAll_eq_scan`** — feeding chunk after chunk is scanning their
  concatenation.
* **`Scanner.scan_flatMap`** — a concatenation of encoded items is read back as the items.
* **`Scanner.Takes`** — some tokens taken, down to a place from which the scan goes on.
-/

namespace NexusN3.Lib

universe u v w

/-- What to do with the elements that have arrived: wait (`none`), or take `n` of them off
the front as the token `t`. -/
structure Scanner (β : Type u) (τ : Type v) where
  verdict : List β → Option (Nat × τ)
  productive : ∀ {buf : List β} {n : Nat} {t : τ},
    verdict buf = some (n, t) → 0 < n ∧ n ≤ buf.length
  stable : ∀ {buf : List β} {n : Nat} {t : τ} (more : List β),
    verdict buf = some (n, t) → verdict (buf ++ more) = some (n, t)

namespace Scanner

variable {β : Type u} {τ : Type v} (S : Scanner β τ)

/-- Take tokens until the scanner waits: the tokens, and what is left. -/
def scan (buf : List β) : List τ × List β :=
  match _h : S.verdict buf with
  | none => ([], buf)
  | some (n, t) =>
    let rest := scan (buf.drop n)
    (t :: rest.1, rest.2)
termination_by buf.length
decreasing_by
  have := S.productive _h
  rw [List.length_drop]
  omega

theorem scan_wait {buf : List β} (h : S.verdict buf = none) : S.scan buf = ([], buf) := by
  rw [scan]
  split
  · rfl
  · rename_i heq
    rw [h] at heq
    cases heq

theorem scan_token {buf : List β} {n : Nat} {t : τ} (h : S.verdict buf = some (n, t)) :
    S.scan buf = (t :: (S.scan (buf.drop n)).1, (S.scan (buf.drop n)).2) := by
  rw [scan]
  split
  · rename_i heq
    rw [h] at heq
    cases heq
  · rename_i heq
    rw [h] at heq
    cases heq
    rfl

/-- What a scan leaves is waited for. -/
theorem verdict_scan_rest (buf : List β) : S.verdict (S.scan buf).2 = none := by
  induction buf using Scanner.scan.induct S with
  | case1 buf h =>
      rw [S.scan_wait h]
      exact h
  | case2 buf n t h ih =>
      rw [S.scan_token h]
      exact ih

/-- **The cut does not matter.** Induction along the scan of the first part: each of its
tokens is still taken when `more` stands behind it. -/
theorem scan_append (buf more : List β) :
    S.scan (buf ++ more)
      = ((S.scan buf).1 ++ (S.scan ((S.scan buf).2 ++ more)).1,
          (S.scan ((S.scan buf).2 ++ more)).2) := by
  induction buf using Scanner.scan.induct S with
  | case1 buf h =>
      rw [S.scan_wait h]
      rfl
  | case2 buf n t h ih =>
      have hdrop : (buf ++ more).drop n = buf.drop n ++ more :=
        List.drop_append_of_le_length (S.productive h).2
      rw [S.scan_token (S.stable more h), S.scan_token h, hdrop, ih]
      rfl

/-- The same token of length one taken `k` times over. -/
theorem scan_replicate {buf : List β} {t : τ} {k : Nat}
    (h : ∀ j, j < k → S.verdict (buf.drop j) = some (1, t)) :
    S.scan buf
      = (List.replicate k t ++ (S.scan (buf.drop k)).1, (S.scan (buf.drop k)).2) := by
  induction k generalizing buf with
  | zero => rfl
  | succ k ih =>
      have hfirst : S.verdict buf = some (1, t) := h 0 (by omega)
      have hrest := @ih (buf.drop 1) fun j hj => by
        rw [List.drop_drop, Nat.add_comm]
        exact h (j + 1) (by omega)
      rw [List.drop_drop, Nat.add_comm] at hrest
      rw [S.scan_token hfirst, hrest]
      rfl

/-! ## Down to a place -/

/-- From `buf` the tokens `ts` are taken off, which leaves `rest`. -/
inductive Takes : List β → List τ → List β → Prop where
  | done (buf : List β) : Takes buf [] buf
  | step {buf rest : List β} {ts : List τ} {n : Nat} {t : τ}
      (token : S.verdict buf = some (n, t)) (later : Takes (buf.drop n) ts rest) :
      Takes buf (t :: ts) rest

variable {S}

/-- A scan goes on from where tokens have led it. -/
theorem Takes.scan {buf rest : List β} {ts : List τ} (h : S.Takes buf ts rest) :
    S.scan buf = (ts ++ (S.scan rest).1, (S.scan rest).2) := by
  induction h with
  | done buf => rfl
  | step token later ih =>
      rw [S.scan_token token, ih]
      rfl

theorem Takes.length_le {buf rest : List β} {ts : List τ} (h : S.Takes buf ts rest) :
    rest.length ≤ buf.length := by
  induction h with
  | done buf => exact Nat.le_refl _
  | step token later ih =>
      rw [List.length_drop] at ih
      omega

variable (S)

/-! ## Chunks -/

/-- Feed chunk after chunk, scanning after each. -/
def feedAll : List β → List (List β) → List τ × List β
  | rest, [] => ([], rest)
  | rest, chunk :: chunks =>
    let first := S.scan (rest ++ chunk)
    let later := feedAll first.2 chunks
    (first.1 ++ later.1, later.2)

/-- Behind a waiting rest, the chunks are scanned as their concatenation. -/
theorem feedAll_eq_scan {rest : List β} (hrest : S.verdict rest = none)
    (chunks : List (List β)) : S.feedAll rest chunks = S.scan (rest ++ chunks.flatten) := by
  induction chunks generalizing rest with
  | nil =>
      rw [List.flatten_nil, List.append_nil, S.scan_wait hrest]
      rfl
  | cons chunk chunks ih =>
      show ((S.scan (rest ++ chunk)).1 ++ (S.feedAll (S.scan (rest ++ chunk)).2 chunks).1,
        (S.feedAll (S.scan (rest ++ chunk)).2 chunks).2) = _
      rw [ih (S.verdict_scan_rest (rest ++ chunk)), List.flatten_cons, ← List.append_assoc,
        S.scan_append (rest ++ chunk)]

/-! ## Encoded items -/

/-- Items encoded one after another are read back in order, if the scanner takes each whole
encoding as that item's token. -/
theorem scan_flatMap {ι : Type w} (encode : ι → List β) (token : ι → τ) (items : List ι)
    (hread : ∀ i ∈ items, ∀ more : List β,
      S.verdict (encode i ++ more) = some ((encode i).length, token i)) (more : List β) :
    S.scan (items.flatMap encode ++ more)
      = (items.map token ++ (S.scan more).1, (S.scan more).2) := by
  induction items with
  | nil => rfl
  | cons i items ih =>
      have hi := hread i (List.mem_cons_self ..) (items.flatMap encode ++ more)
      have hrest := ih fun j hj => hread j (List.mem_cons_of_mem i hj)
      rw [List.flatMap_cons, List.append_assoc, S.scan_token hi, List.drop_left, hrest]
      rfl

end Scanner

end NexusN3.Lib
