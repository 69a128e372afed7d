import NexusN3.Lib.Compare
import NexusN3.Plugins.Verified
import Mathlib.Data.String.Basic
import Mathlib.Data.Sum.Order

/-!
# The order of versions

`normalize_version` cuts a version at its dots and hyphens and reads the pieces that are digits
as numbers; `version_gte` compares the two tuples as the interpreter compares tuples. A number
and a text have no order, a shorter tuple is below what it begins, and not every digit is one
that `int` reads. So the comparison is a preorder of versions only among versions that keep out
of each other's way.

* **`versionGte`** — the comparison; `Checks.versionGte_str` says where a bundle is checked by it.
* **`OrdersVersions`** — the promise, for the versions of a set.
* **`Orderable`** — what it takes of the set.
* **`ordersVersions_iff`** — the two are equivalent.
-/

namespace NexusN3.Plugins

open Lib Lib.Compare

/-! ## Reading a version -/

/-- What the interpreter makes of digits: which characters are some, and the value of those that
`int` reads. -/
structure Numerals where
  isDigit : Char → Bool
  decimal? : Char → Option Nat
  /-- the most digits that `int` reads, if there is a limit -/
  maxStrDigits : Option Nat
  isDigit_of_decimal : ∀ c, (decimal? c).isSome → isDigit c = true
  decimal_ascii : ∀ c, c.isDigit = true → decimal? c = some (c.toNat - 48)

namespace Numerals

variable (u : Numerals)

/-- `int` of a text of digits. -/
def int (text : List Char) : Except Raised Nat :=
  if u.maxStrDigits.any (fun most => most < text.length) then
    .error ⟨"ValueError", "Exceeds the limit for integer string conversion"⟩
  else
    match text.mapM u.decimal? with
    | some digits => .ok (digits.foldl (fun n d => 10 * n + d) 0)
    | none => .error ⟨"ValueError", "invalid literal for int() with base 10"⟩

/-- One piece of a version. -/
def readToken (token : String) : Except Raised Token :=
  if token ≠ "" ∧ token.toList.all u.isDigit = true then .number <$> u.int token.toList
  else .ok (.word token)

end Numerals

/-- The pieces between dots and hyphens. -/
def versionTokens (raw : String) : List String :=
  (((raw.toList.map fun ch => if ch = '-' then '.' else ch).splitOn '.').map String.ofList).filter
    (· ≠ "")

def normalizeVersion (read : String → Except Raised Token) (raw : String) :
    Except Raised (List Token) :=
  (versionTokens raw).mapM read

/-- `version_gte`. -/
def versionGte (read : String → Except Raised Token) (left right : String) :
    Except Raised Bool := do
  let left ← normalizeVersion read left
  tokensGte left (← normalizeVersion read right)

/-- The check of `min_nexus_n3_core_version`. -/
theorem Checks.versionGte_str {γ : Type} (c : Checks γ) (minVersion : String) :
    c.versionGte (.str minVersion)
      = Plugins.versionGte c.readToken c.currentCoreVersion minVersion := rfl

/-! ## What it is for -/

/-- The number that a text of ASCII digits writes. -/
def decimalValue (text : List Char) : Nat := text.foldl (fun n c => 10 * n + (c.toNat - 48)) 0

/-- `raw` is a purely numeric dotted version with these components. -/
def IsNumeric (raw : String) (components : List Nat) : Prop :=
  ∃ parts : List (List Char), parts ≠ []
    ∧ (∀ part ∈ parts, part ≠ [] ∧ ∀ c ∈ part, c.isDigit = true)
    ∧ raw.toList = ['.'].intercalate parts ∧ components = parts.map decimalValue

/-- `y` is the release `x` with a hyphen and a tag behind it, as `X-rc`. -/
def IsPreRelease (x y : String) : Prop :=
  (∃ components, IsNumeric x components)
    ∧ ∃ first rest, first.isAlpha = true ∧ y.toList = x.toList ++ '-' :: first :: rest

/-- **Versions are ordered**, those of `S` among each other. -/
structure OrdersVersions (u : Numerals) (S : Set String) : Prop where
  returns : ∀ a ∈ S, ∀ b ∈ S, ∃ r, versionGte u.readToken a b = .ok r
  reflexive : ∀ a ∈ S, versionGte u.readToken a a = .ok true
  transitive : ∀ a ∈ S, ∀ b ∈ S, ∀ c ∈ S, versionGte u.readToken a b = .ok true →
    versionGte u.readToken b c = .ok true → versionGte u.readToken a c = .ok true
  total : ∀ a ∈ S, ∀ b ∈ S, versionGte u.readToken a b = .ok true
    ∨ versionGte u.readToken b a = .ok true
  numeric : ∀ a ∈ S, ∀ b ∈ S, ∀ as bs, IsNumeric a as → IsNumeric b bs →
    (versionGte u.readToken a b = .ok true ↔ NumericGte as bs)
  preRelease : ∀ x ∈ S, ∀ y ∈ S, IsPreRelease x y → versionGte u.readToken y x ≠ .ok true

/-! ## What it takes -/

/-- Two numbers, or two texts. -/
def Token.Alike : Token → Token → Prop
  | .number _, .number _ => True
  | .word _, .word _ => True
  | _, _ => False

/-- A place for each token in one order: the numbers below the texts. -/
def Token.key : Token → Nat ⊕ₗ String
  | .number n => Sum.inlₗ n
  | .word text => Sum.inrₗ text

theorem Token.gte_alike {a b : Token} (h : a.Alike b) :
    a.gte b = .ok (decide (b.key ≤ a.key)) := by
  cases a with
  | number m =>
      cases b with
      | number n =>
          have hkey : (Token.number n).key ≤ (Token.number m).key ↔ n ≤ m :=
            Sum.Lex.inl_le_inl_iff
          simp only [Token.gte, hkey]
      | word text => cases h
  | word s =>
      cases b with
      | number n => cases h
      | word t =>
          have hkey : (Token.word t).key ≤ (Token.word s).key ↔ t ≤ s := Sum.Lex.inr_le_inr_iff
          simp only [Token.gte, hkey]

theorem Token.gte_unlike {a b : Token} (h : ¬ a.Alike b) : ∃ e, a.gte b = .error e := by
  cases a with
  | number m =>
      cases b with
      | number n => exact absurd trivial h
      | word text => exact ⟨_, rfl⟩
  | word s =>
      cases b with
      | number n => exact ⟨_, rfl⟩
      | word t => exact absurd trivial h

theorem Token.key_injective : Function.Injective Token.key := by
  intro a b h
  cases a <;> cases b <;> simp_all [Token.key]

/-- Tokens, with an order for two of a kind. -/
def tokenOrder : ElementOrder Token (Nat ⊕ₗ String) Raised where
  gte := Token.gte
  alike := Token.Alike
  key := Token.key
  key_injective := Token.key_injective
  gte_alike := Token.gte_alike
  gte_unlike := Token.gte_unlike

theorem tokensGte_eq (as bs : List Token) : tokensGte as bs = tokenOrder.seqGte as bs := by
  induction as generalizing bs with
  | nil => cases bs <;> rfl
  | cons a as ih =>
      cases bs with
      | nil => rfl
      | cons b bs =>
          show (if a = b then tokensGte as bs else a.gte b) = _
          rw [ih]
          rfl

/-- A piece that is all digits is one that `int` reads. -/
def Numerals.Reads (u : Numerals) (token : String) : Prop :=
  token.toList.all u.isDigit = true →
    (∀ c ∈ token.toList, (u.decimal? c).isSome)
      ∧ u.maxStrDigits.any (fun most => most < token.toList.length) = false

/-- **What it takes**: the digits are ones that `int` reads; two versions differ first at two
numbers or at two texts; no two numeric versions differ by zeros at the end; and no release comes
together with a pre-release of it. -/
structure Orderable (u : Numerals) (S : Set String) : Prop where
  reads : ∀ a ∈ S, ∀ token ∈ versionTokens a, u.Reads token
  comparable : ∀ a ∈ S, ∀ b ∈ S, ∀ as bs, normalizeVersion u.readToken a = .ok as →
    normalizeVersion u.readToken b = .ok bs → tokenOrder.Comparable as bs
  zeros : ∀ a ∈ S, ∀ b ∈ S, ∀ as bs, IsNumeric a as → IsNumeric b bs →
    ∀ k, bs ≠ as ++ List.replicate (k + 1) 0
  releases : ∀ x ∈ S, ∀ y ∈ S, ¬ IsPreRelease x y

/-! ## Reading -/

section Reading

variable {u : Numerals}

theorem readToken_ok_iff {token : String} (hne : token ≠ "") :
    (∃ t, u.readToken token = .ok t) ↔ u.Reads token := by
  unfold Numerals.readToken Numerals.Reads
  by_cases hdigits : token.toList.all u.isDigit = true
  · rw [if_pos ⟨hne, hdigits⟩, imp_iff_right hdigits, Numerals.int]
    by_cases hlong : u.maxStrDigits.any (fun most => most < token.toList.length) = true
    · rw [if_pos hlong, hlong]
      exact ⟨nofun, nofun⟩
    · rw [if_neg hlong, Bool.eq_false_iff.mpr hlong, ← exists_mapM_some_iff]
      cases token.toList.mapM u.decimal? with
      | none => exact ⟨nofun, nofun⟩
      | some digits => exact ⟨fun _ => ⟨⟨digits, rfl⟩, rfl⟩, fun _ => ⟨_, rfl⟩⟩
  · rw [if_neg fun h => hdigits h.2]
    exact ⟨fun _ h => absurd h hdigits, fun _ => ⟨_, rfl⟩⟩

theorem ne_empty_of_mem {raw token : String} (h : token ∈ versionTokens raw) : token ≠ "" := by
  have hkept := (List.mem_filter.mp h).2
  simpa using hkept

theorem normalizeVersion_ok_iff {raw : String} :
    (∃ ts, normalizeVersion u.readToken raw = .ok ts)
      ↔ ∀ token ∈ versionTokens raw, u.Reads token := by
  constructor
  · rintro ⟨ts, hts⟩ token htoken
    obtain ⟨t, -, ht⟩ := (exists_mem_of_mapM_ok hts).1 token htoken
    exact (readToken_ok_iff (ne_empty_of_mem htoken)).mp ⟨t, ht⟩
  · intro h
    exact exists_mapM_ok fun token htoken =>
      (readToken_ok_iff (ne_empty_of_mem htoken)).mpr (h token htoken)

theorem versionGte_eq {a b : String} {as bs : List Token}
    (ha : normalizeVersion u.readToken a = .ok as)
    (hb : normalizeVersion u.readToken b = .ok bs) :
    versionGte u.readToken a b = tokenOrder.seqGte as bs := by
  rw [versionGte, ha, hb, ← tokensGte_eq]
  rfl

/-- The comparison returns when both versions read and their first difference has an order. -/
theorem versionGte_ok_iff {a b : String} :
    (∃ r, versionGte u.readToken a b = .ok r)
      ↔ ∃ as bs, normalizeVersion u.readToken a = .ok as
        ∧ normalizeVersion u.readToken b = .ok bs ∧ tokenOrder.Comparable as bs := by
  constructor
  · rintro ⟨r, hr⟩
    cases ha : normalizeVersion u.readToken a with
    | error e =>
        rw [versionGte, ha] at hr
        cases hr
    | ok as =>
        cases hb : normalizeVersion u.readToken b with
        | error e =>
            rw [versionGte, ha, hb] at hr
            cases hr
        | ok bs =>
            rw [versionGte_eq ha hb] at hr
            exact ⟨as, bs, rfl, rfl, tokenOrder.seqGte_ok_iff.mp ⟨r, hr⟩⟩
  · rintro ⟨as, bs, ha, hb, hcomparable⟩
    rw [versionGte_eq ha hb]
    exact tokenOrder.seqGte_ok_iff.mpr hcomparable

/-! ## Numeric versions and pre-releases -/

theorem isDigit_ne_dot {c : Char} (h : c.isDigit = true) : c ≠ '.' ∧ c ≠ '-' := by
  constructor
  · rintro rfl
    exact absurd h (by decide)
  · rintro rfl
    exact absurd h (by decide)

theorem mem_intercalate {c : Char} {parts : List (List Char)}
    (h : c ∈ ['.'].intercalate parts) : c = '.' ∨ ∃ part ∈ parts, c ∈ part := by
  induction parts with
  | nil => cases h
  | cons part parts ih =>
      by_cases hnil : parts = []
      · subst hnil
        rw [List.intercalate_singleton] at h
        exact Or.inr ⟨part, List.mem_cons_self, h⟩
      · rw [List.intercalate_cons_of_ne_nil hnil, List.mem_append, List.mem_append] at h
        rcases h with (h | h) | h
        · exact Or.inr ⟨part, List.mem_cons_self, h⟩
        · exact Or.inl (List.mem_singleton.mp h)
        · rcases ih h with hdot | ⟨q, hq, hc⟩
          · exact Or.inl hdot
          · exact Or.inr ⟨q, List.mem_cons_of_mem _ hq, hc⟩

/-- The pieces of a numeric version are its components. -/
theorem versionTokens_numeric {raw : String} {parts : List (List Char)} (hne : parts ≠ [])
    (hparts : ∀ part ∈ parts, part ≠ [] ∧ ∀ c ∈ part, c.isDigit = true)
    (hraw : raw.toList = ['.'].intercalate parts) :
    versionTokens raw = parts.map String.ofList := by
  have hkeep : (raw.toList.map fun ch => if ch = '-' then '.' else ch) = raw.toList := by
    refine (List.map_congr_left fun c hc => ?_).trans (List.map_id' _)
    rw [if_neg]
    rintro rfl
    rw [hraw] at hc
    rcases mem_intercalate hc with heq | ⟨part, hpart, hmem⟩
    · exact absurd heq (by decide)
    · exact (isDigit_ne_dot ((hparts part hpart).2 _ hmem)).2 rfl
  have hsplit : raw.toList.splitOn '.' = parts := by
    rw [hraw]
    exact List.splitOn_intercalate '.'
      (fun part hpart hdot => (isDigit_ne_dot ((hparts part hpart).2 _ hdot)).1 rfl) hne
  rw [versionTokens, hkeep, hsplit, List.filter_eq_self]
  intro token htoken
  obtain ⟨part, hpart, rfl⟩ := List.mem_map.mp htoken
  have hempty : String.ofList part ≠ "" := by
    intro heq
    apply (hparts part hpart).1
    have hlist := congrArg String.toList heq
    rwa [String.toList_ofList] at hlist
  simpa using hempty

/-- A text of ASCII digits is read as the number it writes. -/
theorem readToken_digits {part : List Char} (hne : part ≠ [])
    (hdigits : ∀ c ∈ part, c.isDigit = true) {t : Token}
    (h : u.readToken (String.ofList part) = .ok t) : t = .number (decimalValue part) := by
  have hdecimal : part.mapM u.decimal? = some (part.map fun c => c.toNat - 48) := by
    apply mapM_of_forall₂
    rw [List.forall₂_map_right_iff, List.forall₂_same]
    exact fun c hc => u.decimal_ascii c (hdigits c hc)
  have hall : (String.ofList part).toList.all u.isDigit = true := by
    rw [String.toList_ofList, List.all_eq_true]
    intro c hc
    apply u.isDigit_of_decimal
    rw [u.decimal_ascii c (hdigits c hc)]
    rfl
  have hempty : String.ofList part ≠ "" := by
    intro heq
    apply hne
    have hlist := congrArg String.toList heq
    rwa [String.toList_ofList] at hlist
  rw [Numerals.readToken, if_pos ⟨hempty, hall⟩, String.toList_ofList, Numerals.int] at h
  split at h
  · cases h
  · rw [hdecimal] at h
    cases h
    rw [decimalValue, List.foldl_map]

theorem normalizeVersion_numeric {raw : String} {components : List Nat} {ts : List Token}
    (hraw : IsNumeric raw components) (h : normalizeVersion u.readToken raw = .ok ts) :
    ts = components.map .number := by
  obtain ⟨parts, hne, hparts, htext, rfl⟩ := hraw
  rw [normalizeVersion, versionTokens_numeric hne hparts htext] at h
  have hall := forall₂_of_mapM_ok h
  rw [List.forall₂_map_left_iff] at hall
  clear h htext hne
  induction hall with
  | nil => rfl
  | @cons part t parts ts ht _ ih =>
      obtain ⟨hpart, hparts⟩ := List.forall_mem_cons.mp hparts
      rw [List.map_cons, List.map_cons, readToken_digits hpart.1 hpart.2 ht, ← ih hparts]

/-- Behind the pieces of the release stand those of the tag. -/
theorem versionTokens_append {x y : String} {tag : List Char}
    (hy : y.toList = x.toList ++ '-' :: tag) :
    versionTokens y = versionTokens x ++ versionTokens (String.ofList tag) := by
  rw [versionTokens, hy, List.map_append, List.map_cons, if_pos rfl,
    List.splitOn_append_cons_self, List.map_append, List.filter_append, versionTokens,
    versionTokens, String.toList_ofList]

theorem normalizeVersion_append {x y : String} {xs ys : List Token}
    {more : List String} (hy : versionTokens y = versionTokens x ++ more)
    (hxs : normalizeVersion u.readToken x = .ok xs)
    (hys : normalizeVersion u.readToken y = .ok ys) : ∃ zs, ys = xs ++ zs := by
  rw [normalizeVersion, hy, List.mapM_append, ← normalizeVersion, hxs] at hys
  cases hmore : more.mapM u.readToken with
  | error e =>
      rw [hmore] at hys
      cases hys
  | ok zs =>
      rw [hmore] at hys
      cases hys
      exact ⟨zs, rfl⟩

end Reading

/-! ## The order -/

section Order

variable {u : Numerals} {S : Set String}

/-- A version that begins with another is not below it. -/
theorem versionGte_preRelease {x y : String} {xs ys : List Token} (h : IsPreRelease x y)
    (hxs : normalizeVersion u.readToken x = .ok xs)
    (hys : normalizeVersion u.readToken y = .ok ys) :
    versionGte u.readToken y x = .ok true := by
  obtain ⟨-, first, rest, -, hy⟩ := h
  obtain ⟨zs, rfl⟩ := normalizeVersion_append (versionTokens_append hy) hxs hys
  rw [versionGte_eq hys hxs]
  exact tokenOrder.seqGte_append xs zs

/-- Numeric versions are compared as lists of numbers. -/
theorem versionGte_numeric {a b : String} {as bs : List Nat} {ta tb : List Token}
    (ha : IsNumeric a as) (hb : IsNumeric b bs) (hta : normalizeVersion u.readToken a = .ok ta)
    (htb : normalizeVersion u.readToken b = .ok tb) :
    versionGte u.readToken a b = .ok true ↔ bs ≤ as := by
  rw [versionGte_eq hta htb, normalizeVersion_numeric ha hta, normalizeVersion_numeric hb htb]
  clear hta htb ha hb
  induction as generalizing bs with
  | nil =>
      cases bs with
      | nil => exact ⟨fun _ => nil_le _, fun _ => rfl⟩
      | cons b bs => exact ⟨nofun, fun h => absurd h (not_cons_le_nil b bs)⟩
  | cons a as ih =>
      cases bs with
      | nil => exact ⟨fun _ => nil_le _, fun _ => rfl⟩
      | cons b bs =>
          rw [cons_le_cons_iff]
          simp only [List.map_cons, ElementOrder.seqGte, Token.number.injEq]
          by_cases hab : a = b
          · rw [if_pos hab, ih, hab]
            simp
          · rw [if_neg hab]
            show Except.ok (decide (b ≤ a)) = Except.ok true ↔ _
            rw [Except.ok.injEq, decide_eq_true_iff]
            omega

theorem Orderable.ordersVersions (h : Orderable u S) : OrdersVersions u S := by
  have hread {a : String} (ha : a ∈ S) : ∃ ts, normalizeVersion u.readToken a = .ok ts :=
    normalizeVersion_ok_iff.mpr (h.reads a ha)
  constructor
  · intro a ha b hb
    obtain ⟨as, has⟩ := hread ha
    obtain ⟨bs, hbs⟩ := hread hb
    exact versionGte_ok_iff.mpr ⟨as, bs, has, hbs, h.comparable a ha b hb as bs has hbs⟩
  · intro a ha
    obtain ⟨as, has⟩ := hread ha
    have happend := tokenOrder.seqGte_append as []
    rw [List.append_nil] at happend
    rw [versionGte_eq has has, happend]
  · intro a ha b hb c hc hab hbc
    obtain ⟨as, has⟩ := hread ha
    obtain ⟨bs, hbs⟩ := hread hb
    obtain ⟨cs, hcs⟩ := hread hc
    rw [versionGte_eq has hbs] at hab
    rw [versionGte_eq hbs hcs] at hbc
    rw [versionGte_eq has hcs]
    exact tokenOrder.seqGte_trans (h.comparable a ha b hb as bs has hbs)
      (h.comparable b hb c hc bs cs hbs hcs) (h.comparable a ha c hc as cs has hcs) hab hbc
  · intro a ha b hb
    obtain ⟨as, has⟩ := hread ha
    obtain ⟨bs, hbs⟩ := hread hb
    rw [versionGte_eq has hbs, versionGte_eq hbs has]
    exact tokenOrder.seqGte_total (h.comparable a ha b hb as bs has hbs)
      (h.comparable b hb a ha bs as hbs has)
  · intro a ha b hb as bs hna hnb
    obtain ⟨ta, hta⟩ := hread ha
    obtain ⟨tb, htb⟩ := hread hb
    rw [versionGte_numeric hna hnb hta htb]
    exact le_iff_numericGte.mpr (h.zeros a ha b hb as bs hna hnb)
  · exact fun x hx y hy hpre => absurd hpre (h.releases x hx y hy)

theorem OrdersVersions.orderable (h : OrdersVersions u S) : Orderable u S := by
  have hread {a : String} (ha : a ∈ S) : ∃ ts, normalizeVersion u.readToken a = .ok ts := by
    obtain ⟨as, -, has, -⟩ := versionGte_ok_iff.mp (h.returns a ha a ha)
    exact ⟨as, has⟩
  constructor
  · exact fun a ha => normalizeVersion_ok_iff.mp (hread ha)
  · intro a ha b hb as bs has hbs
    obtain ⟨r, hr⟩ := h.returns a ha b hb
    rw [versionGte_eq has hbs] at hr
    exact tokenOrder.seqGte_ok_iff.mp ⟨r, hr⟩
  · intro a ha b hb as bs hna hnb
    obtain ⟨ta, hta⟩ := hread ha
    obtain ⟨tb, htb⟩ := hread hb
    have hnumeric := h.numeric a ha b hb as bs hna hnb
    rw [versionGte_numeric hna hnb hta htb] at hnumeric
    exact le_iff_numericGte.mp hnumeric
  · intro x hx y hy hpre
    obtain ⟨xs, hxs⟩ := hread hx
    obtain ⟨ys, hys⟩ := hread hy
    exact h.preRelease x hx y hy hpre (versionGte_preRelease hpre hxs hys)

end Order

/-- **When versions are ordered**: exactly when they keep out of each other's way. -/
theorem ordersVersions_iff (u : Numerals) (S : Set String) :
    OrdersVersions u S ↔ Orderable u S :=
  ⟨OrdersVersions.orderable, Orderable.ordersVersions⟩

/-- ASCII digits only. -/
def asciiNumerals : Numerals where
  isDigit := Char.isDigit
  decimal? c := if c.isDigit then some (c.toNat - 48) else none
  maxStrDigits := some 4300
  isDigit_of_decimal c h := by
    by_contra hdigit
    rw [if_neg hdigit] at h
    cases h
  decimal_ascii c h := if_pos h

/-- A release candidate and a release with one more component have no order. -/
theorem not_ordersVersions : ¬ OrdersVersions asciiNumerals Set.univ := by
  intro h
  obtain ⟨r, hr⟩ := h.returns "1.0.0" trivial "1.0-rc" trivial
  have hraised : versionGte asciiNumerals.readToken "1.0.0" "1.0-rc"
      = .error ⟨"TypeError", "'>=' not supported"⟩ := by rfl
  rw [hraised] at hr
  cases hr

end NexusN3.Plugins
