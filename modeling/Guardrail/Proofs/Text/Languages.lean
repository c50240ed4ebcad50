import Mathlib.Computability.Language

/-! # Languages over classes of characters

The shapes of words are regular languages. Where all letters are of one class, a word is told by its
length alone. -/

namespace Guardrail.Text

open Computability

variable {p : Char → Prop} {l : Language Char} {w : List Char} {n : Nat}

/-- The words of one letter of the class. -/
def oneOf (p : Char → Prop) : Language Char := {w | ∃ c, p c ∧ w = [c]}

/-- At least and at most so many words of the language in a row. -/
def repeated (least most : Nat) (l : Language Char) : Language Char :=
  {w | ∃ n, least ≤ n ∧ n ≤ most ∧ w ∈ l ^ n}

theorem singleton_mem_oneOf {c : Char} : [c] ∈ oneOf p ↔ p c := by
  constructor
  · rintro ⟨_, hc, he⟩
    cases he
    exact hc
  · exact fun hc => ⟨c, hc, rfl⟩

theorem mem_oneOf_mul : w ∈ oneOf p * l ↔ ∃ c rest, p c ∧ rest ∈ l ∧ w = c :: rest := by
  rw [Language.mem_mul]
  constructor
  · rintro ⟨_, ⟨c, hc, rfl⟩, rest, hrest, rfl⟩
    exact ⟨c, rest, hc, hrest, rfl⟩
  · rintro ⟨c, rest, hc, hrest, rfl⟩
    exact ⟨[c], ⟨c, hc, rfl⟩, rest, hrest, rfl⟩

theorem cons_mem_oneOf_mul {c : Char} : c :: w ∈ oneOf p * l ↔ p c ∧ w ∈ l := by
  rw [mem_oneOf_mul]
  constructor
  · rintro ⟨_, _, hc, hw, he⟩
    cases he
    exact ⟨hc, hw⟩
  · exact fun ⟨hc, hw⟩ => ⟨c, w, hc, hw, rfl⟩

theorem mem_oneOf_pow : w ∈ oneOf p ^ n ↔ w.length = n ∧ ∀ c ∈ w, p c := by
  induction n generalizing w with
  | zero =>
    rw [pow_zero, Language.mem_one, List.length_eq_zero_iff, iff_self_and]
    rintro rfl
    exact List.forall_mem_nil p
  | succ n ih =>
    rw [pow_succ', mem_oneOf_mul]
    constructor
    · rintro ⟨c, rest, hc, hrest, rfl⟩
      obtain ⟨hlen, hall⟩ := ih.mp hrest
      exact ⟨congrArg (· + 1) hlen, List.forall_mem_cons.mpr ⟨hc, hall⟩⟩
    · rintro ⟨hlen, hall⟩
      obtain ⟨c, rest, rfl⟩ := List.exists_cons_of_length_eq_add_one hlen
      obtain ⟨hc, hall⟩ := List.forall_mem_cons.mp hall
      exact ⟨c, rest, hc, ih.mpr ⟨Nat.succ_inj.mp hlen, hall⟩, rfl⟩

theorem mem_repeated_oneOf {least most : Nat} :
    w ∈ repeated least most (oneOf p) ↔
      least ≤ w.length ∧ w.length ≤ most ∧ ∀ c ∈ w, p c := by
  constructor
  · rintro ⟨n, hleast, hmost, hw⟩
    obtain ⟨rfl, hall⟩ := mem_oneOf_pow.mp hw
    exact ⟨hleast, hmost, hall⟩
  · rintro ⟨hleast, hmost, hall⟩
    exact ⟨w.length, hleast, hmost, mem_oneOf_pow.mpr ⟨rfl, hall⟩⟩

theorem mem_kstar_oneOf : w ∈ (oneOf p)∗ ↔ ∀ c ∈ w, p c := by
  simp [Language.kstar_eq_iSup_pow, Language.mem_iSup, mem_oneOf_pow]

end Guardrail.Text
