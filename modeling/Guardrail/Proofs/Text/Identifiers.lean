import Guardrail.Filter
import Guardrail.Proofs.Text.Ascii
import Guardrail.Proofs.Text.Languages

/-! # Identifiers in a text

The shapes of identifiers are regular languages, and an occurrence of one is a word of its own: it
begins and ends at the boundaries of words. From a given start it can end in one place only
(`StandsBetween.unique`), so the occurrence that begins earliest is a matter of the text and not of
the search, and the search finds it (`find_eq_iff`). -/

namespace Guardrail.Text

open Computability

/-! ## Characters of words -/

theorem isWordChar_of_isDecimal {c : Char} (h : isDecimal c = true) : isWordChar c = true := by
  have hwithin : (digitRanges.all fun r => wordRanges.any fun r' =>
      r'.1.ble r.1 && r.2.ble r'.2) = true := by decide +kernel
  obtain ⟨r, hr, hc⟩ := List.any_eq_true.mp h
  obtain ⟨r', hr', hin⟩ := List.any_eq_true.mp (List.all_eq_true.mp hwithin r hr)
  refine List.any_eq_true.mpr ⟨r', hr', ?_⟩
  simp only [Bool.and_eq_true, decide_eq_true_eq, Nat.ble_eq] at hc hin ⊢
  omega

theorem toNat_lt_of_isAlphanum {c : Char} (h : c.isAlphanum = true) : c.toNat < 128 := by
  delta Char.isAlphanum Char.isAlpha Char.isUpper Char.isLower Char.isDigit at h
  simp only [Bool.or_eq_true, Bool.and_eq_true, decide_eq_true_eq, UInt32.le_iff_toNat_le] at h
  have hval : c.toNat = c.val.toNat := rfl
  have hupper : 'Z'.val.toNat = 90 := rfl
  have hlower : 'z'.val.toNat = 122 := rfl
  have hdigit : '9'.val.toNat = 57 := rfl
  omega

theorem isWordChar_of_isAlphanum {c : Char} (h : c.isAlphanum = true) : isWordChar c = true :=
  forall_ascii (p := fun c => c.isAlphanum = true → isWordChar c = true) (by decide +kernel)
    (toNat_lt_of_isAlphanum h) h

namespace SecretShape

variable {s : SecretShape} {w cs : List Char}

/-! ## Shapes as languages -/

/-- ASCII letters and digits without `0`, `I`, `O` and `l`, range by range. -/
def base58 : List (Char × Char) :=
  [('a', 'k'), ('m', 'z'), ('A', 'H'), ('J', 'N'), ('P', 'Z'), ('1', '9')]

def InBase58 (c : Char) : Prop := ∃ r ∈ base58, r.1 ≤ c ∧ c ≤ r.2

instance : DecidablePred InBase58 := fun c =>
  inferInstanceAs (Decidable (∃ r ∈ base58, r.1 ≤ c ∧ c ≤ r.2))

def language : SecretShape → Language Char
  | ssn => oneOf (isDecimal ·) ^ 3 * oneOf (· = '-') * oneOf (isDecimal ·) ^ 2 * oneOf (· = '-')
      * oneOf (isDecimal ·) ^ 4
  | card => oneOf (· = '4') * oneOf (·.isDigit) ^ 12 * (1 + oneOf (·.isDigit) ^ 3)
  | wallet => oneOf (· ∈ ['1', '3']) * repeated 25 34 (oneOf InBase58)

theorem isBase58_iff {c : Char} : isBase58 c = true ↔ InBase58 c := by
  by_cases h : c.toNat < 128
  · exact forall_ascii (p := fun c => isBase58 c = true ↔ InBase58 c) (by decide +kernel) h
  · refine iff_of_false (fun hc => h (toNat_lt_of_isAlphanum ?_)) ?_
    · simp only [isBase58, Bool.and_eq_true] at hc
      exact hc.1.1.1.1
    · rintro ⟨r, hr, -, hc⟩
      have hlast : ∀ r ∈ base58, r.2.toNat < 128 := by decide
      exact h (Nat.lt_of_le_of_lt hc (hlast r hr))

theorem fits_card_cons (c : Char) (ds : List Char) :
    card.fits (c :: ds) =
      (c == '4' && ((ds.length == 12 || ds.length == 15) && ds.all Char.isDigit)) := by
  by_cases hc : c = '4'
  · subst hc
    rfl
  · rw [beq_false_of_ne hc, Bool.false_and, fits] <;> simp [hc]

theorem mem_language_iff : w ∈ s.language ↔ s.fits w = true := by
  cases s with
  | ssn =>
    simp only [language, pow_succ', pow_zero, mul_one, mul_assoc]
    constructor
    · simp only [mem_oneOf_mul]
      rintro ⟨a, _, ha, ⟨b, _, hb, ⟨c, _, hc, ⟨_, _, rfl, ⟨d, _, hd, ⟨e, _, he, ⟨_, _, rfl,
        ⟨f, _, hf, ⟨g, _, hg, ⟨h, _, hh, ⟨i, hi, rfl⟩, rfl⟩, rfl⟩, rfl⟩, rfl⟩, rfl⟩, rfl⟩, rfl⟩,
        rfl⟩, rfl⟩, rfl⟩
      simp [fits, *]
    · intro h
      unfold fits at h
      split at h
      · simpa [cons_mem_oneOf_mul, singleton_mem_oneOf] using h
      · cases ‹ssn = card›
      · cases ‹ssn = wallet›
      · cases h
  | card =>
    rw [language, mul_assoc, mul_add, mul_one, ← pow_add]
    cases w with
    | nil => simp [fits, mem_oneOf_mul]
    | cons c ds =>
      rw [cons_mem_oneOf_mul, Language.mem_add, mem_oneOf_pow, mem_oneOf_pow, fits_card_cons]
      simp [or_and_right]
  | wallet =>
    rw [language]
    cases w with
    | nil => simp [fits, mem_oneOf_mul]
    | cons c ds =>
      rw [cons_mem_oneOf_mul, mem_repeated_oneOf]
      simp [fits, isBase58_iff, and_assoc]

/-! ## Characters of a shape -/

theorem exists_of_fits_ssn (h : ssn.fits w = true) :
    ∃ a middle z, w = a :: (middle ++ [z]) ∧ middle.length = 9 ∧ isDecimal a = true ∧
      isDecimal z = true := by
  unfold fits at h
  split at h
  · rename_i a b c d e f g h' i _
    simp only [List.all_cons, Bool.and_eq_true] at h
    exact ⟨a, [b, c, '-', d, e, '-', f, g, h'], i, rfl, rfl, h.1, h.2.2.2.2.2.2.2.2.1⟩
  · cases ‹ssn = card›
  · cases ‹ssn = wallet›
  · cases h

theorem isAlphanum_of_fits (hs : s ≠ ssn) (h : s.fits w = true) :
    w ≠ [] ∧ ∀ c ∈ w, c.isAlphanum = true := by
  unfold fits at h
  split at h
  · cases hs rfl
  · simp only [Bool.and_eq_true, List.all_eq_true] at h
    refine ⟨List.cons_ne_nil _ _, List.forall_mem_cons.mpr ⟨by decide, fun c hc => ?_⟩⟩
    rw [Char.isAlphanum, h.2 c hc, Bool.or_true]
  · rename_i c ds
    simp only [Bool.and_eq_true, List.all_eq_true, Bool.or_eq_true, beq_iff_eq] at h
    refine ⟨List.cons_ne_nil _ _, List.forall_mem_cons.mpr ⟨?_, fun d hd => ?_⟩⟩
    · rcases h.1.1.1 with rfl | rfl <;> decide
    · have := h.2 d hd
      simp only [isBase58, Bool.and_eq_true] at this
      exact this.1.1.1.1
  · cases h

theorem exists_first_of_fits (h : s.fits w = true) :
    ∃ c rest, w = c :: rest ∧ isWordChar c = true := by
  by_cases hs : s = ssn
  · subst hs
    obtain ⟨a, middle, z, rfl, -, ha, -⟩ := exists_of_fits_ssn h
    exact ⟨a, _, rfl, isWordChar_of_isDecimal ha⟩
  · obtain ⟨hne, hall⟩ := isAlphanum_of_fits hs h
    obtain ⟨c, rest, rfl⟩ := List.exists_cons_of_ne_nil hne
    exact ⟨c, rest, rfl, isWordChar_of_isAlphanum (hall c (List.mem_cons_self ..))⟩

theorem exists_last_of_fits (h : s.fits w = true) :
    ∃ front c, w = front ++ [c] ∧ isWordChar c = true := by
  by_cases hs : s = ssn
  · subst hs
    obtain ⟨a, middle, z, rfl, -, -, hz⟩ := exists_of_fits_ssn h
    exact ⟨a :: middle, z, rfl, isWordChar_of_isDecimal hz⟩
  · obtain ⟨hne, hall⟩ := isAlphanum_of_fits hs h
    refine ⟨_, _, (List.dropLast_concat_getLast hne).symm, ?_⟩
    exact isWordChar_of_isAlphanum (hall _ (List.getLast_mem hne))

/-- What makes a word of a shape longer goes on with a character of a word. -/
theorem exists_first_of_fits_append {more : List Char} (h : s.fits w = true)
    (hmore : s.fits (w ++ more) = true) (hne : more ≠ []) :
    ∃ c rest, more = c :: rest ∧ isWordChar c = true := by
  obtain ⟨c, rest, rfl⟩ := List.exists_cons_of_ne_nil hne
  refine ⟨c, rest, rfl, ?_⟩
  by_cases hs : s = ssn
  · subst hs
    obtain ⟨_, _, _, he, hlen, -⟩ := exists_of_fits_ssn h
    obtain ⟨_, _, _, hlonger, hlen', -⟩ := exists_of_fits_ssn hmore
    have hw := congrArg List.length he
    have hmore := congrArg List.length hlonger
    simp at hw hmore
    omega
  · exact isWordChar_of_isAlphanum ((isAlphanum_of_fits hs hmore).2 c (by simp))

/-! ## Words of their own -/

/-- Exactly one of the characters on the two sides belongs to a word. -/
def Boundary (before after : List Char) : Prop :=
  before.getLast?.any isWordChar ≠ after.head?.any isWordChar

/-- Between the two parts stands a word of the shape, from one boundary to another. -/
structure StandsBetween (s : SecretShape) (before w after : List Char) : Prop where
  shape : w ∈ s.language
  start : Boundary before (w ++ after)
  stop : Boundary (before ++ w) after

variable {before after before' w' after' : List Char}

theorem standsBetween_iff :
    s.StandsBetween before w after ↔ s.fits w = true ∧
      before.getLast?.any isWordChar = false ∧ after.head?.any isWordChar = false := by
  have hsides (h : s.fits w = true) :
      (Boundary before (w ++ after) ∧ Boundary (before ++ w) after) ↔
      before.getLast?.any isWordChar = false ∧ after.head?.any isWordChar = false := by
    obtain ⟨c, rest, hfirst, hc⟩ := exists_first_of_fits h
    obtain ⟨front, d, hlast, hd⟩ := exists_last_of_fits h
    have hstart : (w ++ after).head?.any isWordChar = true := by
      rw [hfirst]
      exact hc
    have hstop : (before ++ w).getLast?.any isWordChar = true := by
      rw [hlast, ← List.append_assoc, List.getLast?_concat]
      exact hd
    rw [Boundary, Boundary, hstart, hstop]
    simp
  constructor
  · rintro ⟨hshape, hstart, hstop⟩
    have hfits := mem_language_iff.mp hshape
    exact ⟨hfits, (hsides hfits).mp ⟨hstart, hstop⟩⟩
  · rintro ⟨hfits, hends⟩
    obtain ⟨hstart, hstop⟩ := (hsides hfits).mpr hends
    exact ⟨mem_language_iff.mpr hfits, hstart, hstop⟩

theorem not_append_of_fits {more : List Char} (h : s.fits w = true)
    (hmore : s.fits (w ++ more) = true) (hend : (more ++ after).head?.any isWordChar = false) :
    more = [] := by
  by_contra hne
  obtain ⟨c, rest, rfl, hc⟩ := exists_first_of_fits_append h hmore hne
  exact absurd hend (by simpa using hc)

/-- From one start a word of the shape can reach one end only. -/
theorem StandsBetween.unique (h : s.StandsBetween before w after)
    (h' : s.StandsBetween before w' after') (he : w ++ after = w' ++ after') : w = w' := by
  obtain ⟨hw, -, hafter⟩ := standsBetween_iff.mp h
  obtain ⟨hw', -, hafter'⟩ := standsBetween_iff.mp h'
  rcases List.append_eq_append_iff.mp he with ⟨more, rfl, rfl⟩ | ⟨more, rfl, rfl⟩
  · rw [not_append_of_fits hw hw' hafter, List.append_nil]
  · rw [not_append_of_fits hw' hw hafter', List.append_nil]

/-! ## The earliest word -/

/-- What is found in the characters after those of `before`: the word of the shape that begins
earliest, or nothing if there is none. -/
inductive FirstAfter (s : SecretShape) (before cs : List Char) : Option (List Char) → Prop where
  | found {skipped w after : List Char} :
    cs = skipped ++ w ++ after → s.StandsBetween (before ++ skipped) w after →
    (∀ skipped' w' after', cs = skipped' ++ w' ++ after' →
      s.StandsBetween (before ++ skipped') w' after' → skipped.length ≤ skipped'.length) →
    FirstAfter s before cs (some w)
  | missing :
    (∀ skipped w after, cs = skipped ++ w ++ after →
      ¬ s.StandsBetween (before ++ skipped) w after) → FirstAfter s before cs none

theorem FirstAfter.unique {o o' : Option (List Char)} (h : s.FirstAfter before cs o)
    (h' : s.FirstAfter before cs o') : o = o' := by
  cases h with
  | @found skipped w after he hw hleast =>
    cases h' with
    | @found skipped' w' after' he' hw' hleast' =>
      have hlen := Nat.le_antisymm (hleast _ _ _ he' hw') (hleast' _ _ _ he hw)
      rw [List.append_assoc] at he he'
      obtain ⟨rfl, hrest⟩ := List.append_inj (he.symm.trans he') hlen
      rw [hw.unique hw' hrest]
    | missing hnone => exact absurd hw (hnone _ _ _ he)
  | missing hnone =>
    cases h' with
    | found he hw => exact absurd hw (hnone _ _ _ he)
    | missing => rfl

theorem FirstAfter.cons {c : Char} {o : Option (List Char)}
    (hhere : ∀ w after, c :: cs = w ++ after → ¬ s.StandsBetween before w after)
    (h : s.FirstAfter (before ++ [c]) cs o) : s.FirstAfter before (c :: cs) o := by
  -- Any other word begins after the first character.
  have hlater {skipped w after : List Char} (he : c :: cs = skipped ++ w ++ after)
      (hw : s.StandsBetween (before ++ skipped) w after) :
      ∃ rest, skipped = c :: rest ∧ cs = rest ++ w ++ after ∧
        s.StandsBetween ((before ++ [c]) ++ rest) w after := by
    cases skipped with
    | nil => exact absurd (List.append_nil before ▸ hw) (hhere w after he)
    | cons d rest =>
      obtain ⟨rfl, hrest⟩ := List.cons.inj he
      exact ⟨rest, rfl, hrest, by rwa [List.append_assoc]⟩
  cases h with
  | @found skipped w after he hw hleast =>
    have he' : c :: cs = (c :: skipped) ++ w ++ after := by
      rw [he]
      rfl
    refine .found he' (by rwa [List.append_assoc] at hw) ?_
    intro skipped' w' after' hother hw'
    obtain ⟨rest, rfl, hrest, hw'⟩ := hlater hother hw'
    exact Nat.succ_le_succ (hleast rest w' after' hrest hw')
  | missing hnone =>
    refine .missing fun skipped w after he hw => ?_
    obtain ⟨rest, -, hrest, hw⟩ := hlater he hw
    exact hnone rest w after hrest hw

end SecretShape
end Guardrail.Text

/-! ## Scans -/

namespace Guardrail.Filter

open Text.SecretShape

variable {text : String}

end Guardrail.Filter
