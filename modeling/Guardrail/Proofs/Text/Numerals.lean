import Guardrail.Proofs.Text.Ascii
import Guardrail.Text.Number
import Mathlib.Data.List.DropRight

/-! # Numbers with blanks around them

Once its margins are trimmed, a text is read as a natural number exactly if it denotes one that is
below the limit (`natural?_trim_eq_some_iff`). -/

namespace Guardrail.Text

/-- The text is decimal digits of the number, after a plus sign or none, with blanks around. -/
def Denotes (text : String) (n : Nat) : Prop :=
  ∃ before sign ds after : List Char,
    text.toList = before ++ (sign ++ ds ++ after) ∧
      (∀ c ∈ before ++ after, isBlank c = true) ∧ (sign = [] ∨ sign = ['+']) ∧
      ds ≠ [] ∧ (∀ c ∈ ds, c.isDigit = true) ∧ n = Nat.ofDigitChars 10 ds 0

/-! ## Margins -/

theorem toList_trim (text : String) :
    (trim text).toList = (text.toList.dropWhile isBlank).rdropWhile isBlank :=
  String.toList_ofList

theorem trim_spec (text : String) :
    ∃ before after : List Char, text.toList = before ++ ((trim text).toList ++ after) ∧
      ∀ c ∈ before ++ after, isBlank c = true := by
  refine ⟨text.toList.takeWhile isBlank, (text.toList.dropWhile isBlank).rtakeWhile isBlank, ?_, ?_⟩
  · rw [toList_trim, List.rdropWhile_append_rtakeWhile, List.takeWhile_append_dropWhile]
  · intro c hc
    rcases List.mem_append.mp hc with hc | hc
    · exact List.mem_takeWhile_imp hc
    · exact List.mem_rtakeWhile_imp hc

theorem isEmpty_trim_iff {text : String} :
    (trim text).isEmpty = true ↔ ∀ c ∈ text.toList, isBlank c = true := by
  rw [String.isEmpty_iff, ← String.toList_eq_nil_iff]
  constructor
  · intro h
    obtain ⟨before, after, htext, hblank⟩ := trim_spec text
    rw [htext, h]
    exact hblank
  · intro h
    rw [toList_trim, List.rdropWhile_eq_nil_iff]
    exact fun c hc => h c ((List.dropWhile_sublist _).subset hc)

theorem dropWhile_isBlank_of_forall {core : List Char} (hcore : ∀ c ∈ core, isBlank c = false)
    (hne : core ≠ []) (after : List Char) :
    (core ++ after).dropWhile isBlank = core ++ after := by
  obtain ⟨c, rest, rfl⟩ := List.exists_cons_of_ne_nil hne
  exact List.dropWhile_cons_of_neg (by simpa using hcore c List.mem_cons_self)

theorem toList_trim_of_margins {text : String} {before core after : List Char}
    (h : text.toList = before ++ (core ++ after)) (hblank : ∀ c ∈ before ++ after, isBlank c = true)
    (hcore : ∀ c ∈ core, isBlank c = false) (hne : core ≠ []) : (trim text).toList = core := by
  obtain ⟨hbefore, hafter⟩ := List.forall_mem_append.mp hblank
  have hfront : text.toList.dropWhile isBlank = core ++ after := by
    rw [h, List.dropWhile_append_of_pos hbefore, dropWhile_isBlank_of_forall hcore hne]
  have hback : (core ++ after).reverse.dropWhile isBlank = core.reverse := by
    rw [List.reverse_append, List.dropWhile_append_of_pos (by simpa using hafter)]
    have hcore' : ∀ c ∈ core.reverse, isBlank c = false := by simpa using hcore
    simpa using dropWhile_isBlank_of_forall hcore' (List.reverse_ne_nil_iff.mpr hne) []
  rw [toList_trim, hfront, List.rdropWhile, hback, List.reverse_reverse]

/-! ## Digits -/

theorem isBlank_of_isDigit {c : Char} (h : c.isDigit = true) : isBlank c = false := by
  have hascii : c.toNat < 128 := by
    simp only [Char.isDigit, Bool.and_eq_true, decide_eq_true_eq] at h
    exact lt_of_le_of_lt (UInt32.le_iff_toNat_le.mp h.2) (by decide)
  exact forall_ascii (p := fun c => c.isDigit = true → isBlank c = false) (by decide +kernel)
    hascii h

theorem digitValue?_ten_eq_some_iff {c : Char} {d : Nat} :
    digitValue? 10 c = some d ↔ c.isDigit = true ∧ d = c.toNat - '0'.toNat := by
  have hdigit : c.isDigit = true ↔ '0' ≤ c ∧ c ≤ '9' := by
    rw [Char.isDigit, Bool.and_eq_true, decide_eq_true_eq, decide_eq_true_eq]
    rfl
  rw [digitValue?, hdigit]
  by_cases h : '0' ≤ c ∧ c ≤ '9'
  · have hle : c.toNat ≤ '9'.toNat := UInt32.le_iff_toNat_le.mp h.2
    have hlt : c.toNat - '0'.toNat < 10 := by
      rw [show '9'.toNat = '0'.toNat + 9 from rfl] at hle
      omega
    rw [if_pos h, Option.filter_some, if_pos (decide_eq_true hlt), Option.some.injEq]
    exact ⟨fun he => ⟨h, he.symm⟩, fun he => he.2.symm⟩
  · have hletter (k : Nat) : Option.filter (· < 10) (some (k + 10)) = none := by
      simp [Option.filter]
    simp only [h, if_false, false_and, iff_false]
    split_ifs
    · simp [hletter]
    · simp [hletter]
    · simp

theorem continueDigits_cons (radix start : Nat) (c : Char) (cs : List Char) :
    continueDigits radix start (c :: cs) =
      (digitValue? radix c).bind fun d => continueDigits radix (start * radix + d) cs := by
  rw [continueDigits, List.foldlM_cons]
  cases digitValue? radix c <;> rfl

theorem continueDigits_ten_eq_some_iff {n : Nat} {cs : List Char} : ∀ {start : Nat},
    continueDigits 10 start cs = some n ↔
      (∀ c ∈ cs, c.isDigit = true) ∧ n = Nat.ofDigitChars 10 cs start := by
  induction cs with
  | nil =>
    intro start
    exact ⟨fun h => ⟨List.forall_mem_nil _, (Option.some.inj h).symm⟩,
      fun h => congrArg some h.2.symm⟩
  | cons c cs ih =>
    intro start
    rw [continueDigits_cons, Option.bind_eq_some_iff, List.forall_mem_cons, Nat.ofDigitChars_cons]
    constructor
    · rintro ⟨d, hd, hrest⟩
      obtain ⟨hc, rfl⟩ := digitValue?_ten_eq_some_iff.mp hd
      obtain ⟨hcs, hn⟩ := ih.mp hrest
      exact ⟨⟨hc, hcs⟩, Nat.mul_comm start 10 ▸ hn⟩
    · rintro ⟨⟨hc, hcs⟩, hn⟩
      exact ⟨_, digitValue?_ten_eq_some_iff.mpr ⟨hc, rfl⟩,
        ih.mpr ⟨hcs, Nat.mul_comm start 10 ▸ hn⟩⟩

theorem digits?_ten_eq_some_iff {limit n : Nat} {cs : List Char} :
    digits? 10 limit cs = some n ↔
      cs ≠ [] ∧ (∀ c ∈ cs, c.isDigit = true) ∧ n = Nat.ofDigitChars 10 cs 0 ∧ n < limit := by
  rw [digits?]
  split
  · rename_i h
    simp [List.isEmpty_iff.mp h]
  · rename_i h
    rw [Option.filter_eq_some_iff, continueDigits_ten_eq_some_iff, decide_eq_true_eq, and_assoc]
    exact (and_iff_right fun he => h (List.isEmpty_iff.mpr he)).symm

/-- A digit is no sign, so there is one way to read a text as a sign and digits. -/
theorem natural?_eq_some_iff {limit n : Nat} {text : String} :
    natural? limit text = some n ↔
      ∃ sign ds : List Char, text.toList = sign ++ ds ∧ (sign = [] ∨ sign = ['+']) ∧
        ds ≠ [] ∧ (∀ c ∈ ds, c.isDigit = true) ∧ n = Nat.ofDigitChars 10 ds 0 ∧ n < limit := by
  rw [natural?]
  split
  · rename_i cs h
    rw [digits?_ten_eq_some_iff, h]
    constructor
    · exact fun hds => ⟨['+'], cs, rfl, .inr rfl, hds⟩
    · rintro ⟨sign, ds, he, rfl | rfl, hds⟩
      · have := hds.2.1 '+' (List.nil_append ds ▸ he ▸ List.mem_cons_self)
        exact absurd this (by decide)
      · exact List.cons.inj he |>.2 ▸ hds
  · rename_i h
    rw [digits?_ten_eq_some_iff]
    constructor
    · exact fun hds => ⟨[], text.toList, rfl, .inl rfl, hds⟩
    · rintro ⟨sign, ds, he, rfl | rfl, hds⟩
      · exact he ▸ hds
      · exact absurd he (h ds)

theorem natural?_trim_eq_some_iff {limit n : Nat} {text : String} :
    natural? limit (trim text) = some n ↔ Denotes text n ∧ n < limit := by
  rw [natural?_eq_some_iff]
  constructor
  · rintro ⟨sign, ds, he, hsign, hne, hdigits, hn, hlt⟩
    obtain ⟨before, after, htext, hblank⟩ := trim_spec text
    exact ⟨⟨before, sign, ds, after, he ▸ htext, hblank, hsign, hne, hdigits, hn⟩, hlt⟩
  · rintro ⟨⟨before, sign, ds, after, htext, hblank, hsign, hne, hdigits, hn⟩, hlt⟩
    have hcore : ∀ c ∈ sign ++ ds, isBlank c = false := by
      refine List.forall_mem_append.mpr ⟨?_, fun c hc => isBlank_of_isDigit (hdigits c hc)⟩
      rcases hsign with rfl | rfl
      · exact List.forall_mem_nil _
      · exact List.forall_mem_singleton.mpr (by decide +kernel)
    have hne' : sign ++ ds ≠ [] := List.append_ne_nil_of_right_ne_nil _ hne
    exact ⟨sign, ds, toList_trim_of_margins htext hblank hcore hne', hsign, hne, hdigits, hn, hlt⟩

end Guardrail.Text
