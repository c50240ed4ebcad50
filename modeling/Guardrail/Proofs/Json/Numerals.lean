import Guardrail.Double.Shortest
import Guardrail.Json.Tree
import Mathlib.Data.List.Basic
import Mathlib.Data.List.TakeWhile
import Mathlib.Tactic.IntervalCases

/-! # Numerals as they are written

A numeral is scanned from its text whatever follows, as long as that does not go on with it
(`Token.scan_chars`). Integers and finite doubles are written as numerals
(`Spelling.toList_toString_int`, `Double.exists_spelling`), and the numeral of an integer that fits
into a word has it as its value (`Spelling.toInteger?_ofInt`). -/

namespace Guardrail

namespace Json

/-- Nothing that goes on with a numeral. -/
def Ends (rest : List Char) : Prop :=
  ∀ c ∈ rest.head?, Token.isAsciiDigit c = false ∧ c ≠ '.' ∧ c ≠ 'e' ∧ c ≠ 'E'

theorem ends_of_head {c : Char} (h : Token.isAsciiDigit c = false ∧ c ≠ '.' ∧ c ≠ 'e' ∧ c ≠ 'E')
    (rest : List Char) : Ends (c :: rest) := by
  rintro d ⟨⟩
  exact h

/-- The parts of a numeral's text. -/
structure Spelling where
  negative : Bool
  whole : List Char
  fraction : Option (List Char) := none
  /-- Whether the exponent is negative, and its digits. -/
  exponent : Option (Bool × List Char) := none

namespace Spelling

def fractionChars : Option (List Char) → List Char
  | none => []
  | some ds => '.' :: ds

def exponentChars : Option (Bool × List Char) → List Char
  | none => []
  | some (negative, ds) => 'e' :: (if negative then '-' else '+') :: ds

def unsigned (s : Spelling) : List Char :=
  s.whole ++ (fractionChars s.fraction ++ exponentChars s.exponent)

def chars (s : Spelling) : List Char := (if s.negative then ['-'] else []) ++ s.unsigned

def numeral (s : Spelling) : Numeral where
  negative := s.negative
  whole := Token.digitsOf s.whole
  fraction := s.fraction.map Token.digitsOf
  exponent := s.exponent.map fun e => (e.1, Token.digitsOf e.2)

/-- At least one digit and nothing else. -/
def IsDigits (ds : List Char) : Prop := ds ≠ [] ∧ ∀ c ∈ ds, Token.isAsciiDigit c = true

/-- Every part has a digit, and no digit follows a zero in front. -/
structure Proper (s : Spelling) : Prop where
  whole : IsDigits s.whole
  front : s.whole.head? = some '0' → s.whole.length = 1
  fraction : ∀ ds ∈ s.fraction, IsDigits ds
  exponent : ∀ e ∈ s.exponent, IsDigits e.2

end Spelling

namespace Token

/-! ## Scanning -/

variable {cs rest : List Char}

/-- No digit comes first. -/
def NoDigit (rest : List Char) : Prop := ∀ c ∈ rest.head?, isAsciiDigit c = false

theorem noDigit_of_head {c : Char} (h : isAsciiDigit c = false) (rest : List Char) :
    NoDigit (c :: rest) := by
  rintro d ⟨⟩
  exact h

theorem takeWhile_digits (h : NoDigit rest) : rest.takeWhile isAsciiDigit = [] := by
  cases rest with
  | nil => rfl
  | cons c rest => exact List.takeWhile_cons_of_neg (by simpa using h c rfl)

theorem digitsOf_append (hcs : ∀ c ∈ cs, isAsciiDigit c = true) (h : NoDigit rest) :
    digitsOf (cs ++ rest) = digitsOf cs := by
  rw [digitsOf, digitsOf, List.takeWhile_append_of_pos hcs, takeWhile_digits h,
    List.append_nil, List.takeWhile_eq_self_iff.mpr hcs]

theorem dropDigits_append (hcs : ∀ c ∈ cs, isAsciiDigit c = true) (h : NoDigit rest) :
    dropDigits (cs ++ rest) = rest := by
  rw [dropDigits, List.dropWhile_append_of_pos hcs]
  cases rest with
  | nil => rfl
  | cons c rest => exact List.dropWhile_cons_of_neg (by simpa using h c rfl)

theorem digitsOf_eq_map (hcs : ∀ c ∈ cs, isAsciiDigit c = true) :
    digitsOf cs = cs.map fun c => c.toNat - '0'.toNat := by
  rw [digitsOf, List.takeWhile_eq_self_iff.mpr hcs]

theorem isEmpty_digitsOf (h : Spelling.IsDigits cs) : (digitsOf cs).isEmpty = false := by
  rw [digitsOf_eq_map h.2, List.isEmpty_map]
  exact List.isEmpty_eq_false_iff.mpr h.1

theorem scanFraction_append {f : Option (List Char)} (hf : ∀ ds ∈ f, Spelling.IsDigits ds)
    (h : NoDigit rest) (hpoint : rest.head? ≠ some '.') :
    scanFraction (Spelling.fractionChars f ++ rest) = some (f.map digitsOf, rest) := by
  cases f with
  | none =>
    rw [Spelling.fractionChars, List.nil_append, scanFraction]
    · rfl
    · rintro cs rfl
      exact hpoint rfl
  | some ds =>
    have hds := hf ds rfl
    rw [Spelling.fractionChars, List.cons_append, scanFraction, digitsOf_append hds.2 h,
      dropDigits_append hds.2 h, isEmpty_digitsOf hds]
    rfl

theorem scanExponent_append {e : Option (Bool × List Char)}
    (he : ∀ x ∈ e, Spelling.IsDigits x.2) (h : Ends rest) :
    scanExponent (Spelling.exponentChars e ++ rest) =
      some (e.map fun x => (x.1, digitsOf x.2), rest) := by
  have hrest : NoDigit rest := fun c hc => (h c hc).1
  cases e with
  | none =>
    cases rest with
    | nil => rfl
    | cons c rest =>
      have hc := (h c rfl).2.2
      simp [Spelling.exponentChars, scanExponent, hc]
  | some x =>
    obtain ⟨negative, ds⟩ := x
    have hds := he _ rfl
    have hdigits : scanExponentDigits negative (ds ++ rest) =
        some (some (negative, digitsOf ds), rest) := by
      rw [scanExponentDigits, digitsOf_append hds.2 hrest, dropDigits_append hds.2 hrest,
        isEmpty_digitsOf hds]
      rfl
    cases negative with
    | false => simpa [Spelling.exponentChars, scanExponent] using hdigits
    | true => simpa [Spelling.exponentChars, scanExponent] using hdigits

theorem noDigit_exponent {e : Option (Bool × List Char)} (h : NoDigit rest) :
    NoDigit (Spelling.exponentChars e ++ rest) := by
  cases e with
  | none => exact h
  | some x => exact noDigit_of_head rfl _

theorem noDigit_fraction {f : Option (List Char)} (h : NoDigit rest) :
    NoDigit (Spelling.fractionChars f ++ rest) := by
  cases f with
  | none => exact h
  | some ds => exact noDigit_of_head rfl _

theorem exists_digitChar {c : Char} (h : isAsciiDigit c = true) :
    ∃ d < 10, c = Nat.digitChar d ∧ d = c.toNat - '0'.toNat := by
  simp only [isAsciiDigit, Bool.and_eq_true, decide_eq_true_eq] at h
  have hle : '0'.toNat ≤ c.toNat := UInt32.le_iff_toNat_le.mp h.1
  have hge : c.toNat ≤ '0'.toNat + 9 := UInt32.le_iff_toNat_le.mp h.2
  have hd : c.toNat - '0'.toNat < 10 := by omega
  refine ⟨c.toNat - '0'.toNat, hd, Char.toNat_inj.mp ?_, rfl⟩
  rw [Nat.toNat_digitChar_of_lt_ten hd]
  exact (Nat.add_sub_cancel' hle).symm

theorem scanNumeral_append {s : Spelling} (hs : s.Proper) (h : Ends rest) :
    scanNumeral s.negative (s.unsigned ++ rest) = some (s.numeral, rest) := by
  have hrest : NoDigit rest := fun c hc => (h c hc).1
  have hexponent := noDigit_exponent (e := s.exponent) hrest
  have hpoint : (Spelling.exponentChars s.exponent ++ rest).head? ≠ some '.' := by
    cases s.exponent with
    | none => exact fun hc => (h '.' hc).2.1 rfl
    | some x => simp [Spelling.exponentChars]
  have hwhole := noDigit_fraction (f := s.fraction) hexponent
  have hfront : ((digitsOf s.whole).head? == some 0 && decide (1 < (digitsOf s.whole).length)) =
      false := by
    rw [digitsOf_eq_map hs.whole.2, List.length_map, List.head?_map]
    cases hhead : s.whole.head? with
    | none => rfl
    | some c =>
      by_cases hzero : c.toNat - '0'.toNat = 0
      · obtain ⟨d, -, hc, hd⟩ := exists_digitChar (hs.whole.2 c (List.mem_of_mem_head? hhead))
        have hc : c = '0' := by rw [hc, hd, hzero]; rfl
        simp [hs.front (hc ▸ hhead)]
      · rw [Option.map_some, beq_eq_false_iff_ne.mpr fun he => hzero (Option.some.inj he),
          Bool.false_and]
  rw [scanNumeral, Spelling.unsigned, List.append_assoc, List.append_assoc,
    digitsOf_append hs.whole.2 hwhole, dropDigits_append hs.whole.2 hwhole,
    isEmpty_digitsOf hs.whole, hfront, scanFraction_append hs.fraction hexponent hpoint]
  simp only [Bool.or_self, Bool.false_eq_true, if_false, Option.bind_eq_bind, Option.bind_some]
  rw [scanExponent_append hs.exponent h]
  rfl

theorem scan_digit {c : Char} (hc : isAsciiDigit c = true) (cs : List Char) :
    scan (c :: cs) = (scanNumeral false (c :: cs)).map fun p => (numeral p.1, p.2) := by
  obtain ⟨d, hd, rfl, -⟩ := exists_digitChar hc
  interval_cases d <;> rfl

/-- A numeral ends where nothing goes on with it. -/
theorem scan_chars {s : Spelling} (hs : s.Proper) (h : Ends rest) :
    scan (s.chars ++ rest) = some (numeral s.numeral, rest) := by
  have hscan := scanNumeral_append hs h
  rw [Spelling.chars]
  cases hneg : s.negative with
  | true =>
    rw [hneg] at hscan
    show (scanNumeral true (s.unsigned ++ rest)).map _ = _
    rw [hscan]
    rfl
  | false =>
    rw [hneg] at hscan
    obtain ⟨c, ds, hwhole⟩ := List.exists_cons_of_ne_nil hs.whole.1
    have hchars : s.unsigned ++ rest =
        c :: (ds ++ (Spelling.fractionChars s.fraction ++ Spelling.exponentChars s.exponent)
          ++ rest) := by
      rw [Spelling.unsigned, hwhole]
      rfl
    have hc := hs.whole.2 c (hwhole ▸ List.mem_cons_self)
    rw [if_neg Bool.false_ne_true, List.nil_append, hchars, scan_digit hc, ← hchars, hscan]
    rfl

end Token

/-! ## Integers -/

namespace Spelling

theorem isDigits_toDigits (n : Nat) : IsDigits (Nat.toDigits 10 n) :=
  ⟨Nat.toDigits_ne_nil, fun c hc => by
    show c.isDigit = true
    exact Nat.isDigit_of_mem_toDigits (by decide) (by decide) hc⟩

theorem head?_toDigits {n : Nat} (h : 0 < n) : (Nat.toDigits 10 n).head? ≠ some '0' := by
  induction n using Nat.strongRecOn with
  | ind n ih =>
    by_cases hn : n < 10
    · rw [Nat.toDigits_of_lt_base hn]
      simpa using h.ne'
    · have hle : 10 ≤ n := Nat.le_of_not_lt hn
      rw [Nat.toDigits_of_base_le (by decide) hle,
        List.head?_append_of_ne_nil _ Nat.toDigits_ne_nil]
      exact ih (n / 10) (Nat.div_lt_self h (by decide)) (Nat.div_pos hle (by decide))

/-- The digits of an integer after its sign. -/
def ofInt (i : Int) : Spelling where
  negative := i < 0
  whole := Nat.toDigits 10 i.natAbs

theorem proper_ofInt (i : Int) : (ofInt i).Proper where
  whole := isDigits_toDigits _
  front := fun h => by
    rcases Nat.eq_zero_or_pos i.natAbs with hzero | hpos
    · rw [ofInt, hzero, Nat.toDigits_zero]
      rfl
    · exact absurd h (head?_toDigits hpos)
  fraction := by simp [ofInt]
  exponent := by simp [ofInt]

theorem toList_toString_int (i : Int) : (toString i).toList = (ofInt i).chars := by
  have hunsigned : (ofInt i).unsigned = Nat.toDigits 10 i.natAbs := by
    simp [unsigned, ofInt, fractionChars, exponentChars]
  rw [Int.toString_eq_repr, Int.repr_eq_if, chars, hunsigned]
  by_cases h : 0 ≤ i
  · have habs : i.toNat = i.natAbs := by omega
    rw [if_pos h, Nat.toList_repr, habs]
    simp [ofInt, h]
  · have habs : (-i).toNat = i.natAbs := by omega
    rw [if_neg h, String.toList_append, Nat.toList_repr, habs]
    simp [ofInt, lt_of_not_ge h]

theorem valueOf_digitsOf {cs : List Char} (h : IsDigits cs) :
    Numeral.valueOf (Token.digitsOf cs) = Nat.ofDigitChars 10 cs 0 := by
  rw [Token.digitsOf_eq_map h.2, Numeral.valueOf, List.foldl_map, Nat.ofDigitChars_eq_foldl]
  simp only [Nat.mul_comm]

/-- The integers of a signed or an unsigned word. -/
def InWord (i : Int) : Prop := -twoTo 63 ≤ i ∧ i < Numeral.wordLimit

theorem toInteger?_ofInt {i : Int} (h : InWord i) : (ofInt i).numeral.toInteger? = some i := by
  have hvalue : Numeral.valueOf (ofInt i).numeral.whole = i.natAbs := by
    rw [numeral, ofInt, valueOf_digitsOf (isDigits_toDigits _), Nat.ofDigitChars_ten_toDigits]
  obtain ⟨hlow, hhigh⟩ := h
  rw [Numeral.toInteger?, hvalue]
  by_cases hneg : i < 0
  · have hword : 0 < i.natAbs ∧ i.natAbs ≤ twoTo 63 := by omega
    have habs : -(i.natAbs : Int) = i := by omega
    simp only [numeral, ofInt, hneg, hword, habs, Option.map_none, Option.isSome_none, Bool.or_self,
      Bool.false_eq_true, decide_true, Bool.and_self, if_false, if_true]
  · have hword : i.natAbs < Numeral.wordLimit := by omega
    have habs : (i.natAbs : Int) = i := by omega
    simp only [numeral, ofInt, hneg, hword, habs, Option.map_none, Option.isSome_none, Bool.or_self,
      Bool.false_eq_true, decide_false, if_false, if_true]

end Spelling

end Json

/-! ## Doubles -/

namespace Double

open Json (Spelling)

/-- Zero does not round to another number. -/
theorem inInterval_zero {d : Double} (h : d.isZero = false) (p : Int) :
    d.inInterval 0 p = false := by
  have hpos : 0 < d.significand := by
    simp only [isZero, Bool.and_eq_false_iff, beq_eq_false_iff_ne] at h
    rw [significand]
    split
    · rename_i hexponent
      exact Nat.pos_of_ne_zero (h.resolve_left (not_not_intro hexponent))
    · exact Nat.lt_of_lt_of_le (by decide) (Nat.le_add_left _ _)
  have hlow : 0 < d.quarterBounds.1 := by
    rw [quarterBounds]
    split <;> omega
  have hleft : (d.crossed 0 d.quarterBounds.1 p).1 = 0 := by simp [crossed]
  have hright : 0 < (d.crossed 0 d.quarterBounds.1 p).2 :=
    Nat.mul_pos (Nat.mul_pos hlow (Nat.pow_pos (by decide))) (Nat.pow_pos (by decide))
  rw [inInterval]
  simp only [hleft]
  split
  · simp [Nat.not_le.mpr hright]
  · simp

theorem digits_shortest {d : Double} (h : d.isZero = false) :
    0 < d.shortest.digits ∨ d.shortest = ⟨0, 0⟩ := by
  rw [shortest]
  cases hs : (List.range 18).findSome? fun (i : Nat) => d.onGrid (d.leadingPower + 1 - i) with
  | none => exact .inr rfl
  | some s =>
    obtain ⟨i, -, hi⟩ := List.exists_of_findSome?_eq_some hs
    obtain ⟨digits, hfind, rfl⟩ := Option.map_eq_some_iff.mp hi
    refine .inl (Nat.pos_of_ne_zero fun (hzero : digits = 0) => ?_)
    have := List.find?_some hfind
    rw [hzero, inInterval_zero h] at this
    cases this

/-! The three shapes of a number's text: with an exponent, below one, and from one on. -/

section Shapes

variable (ds : List Char) (power exponent : Int) (negative : Bool)

def scientific : Spelling :=
  ⟨negative, ds.take 1, if ds.length = 1 then none else some (ds.drop 1),
    some (decide (power < 0), Nat.toDigits 10 power.natAbs)⟩

def belowOne : Spelling :=
  ⟨negative, ['0'], some (List.replicate (-power - 1).toNat '0' ++ ds), none⟩

def fromOne : Spelling :=
  ⟨negative, ds.take (power + 1).toNat ++ List.replicate exponent.toNat '0',
    some (if (ds.drop (power + 1).toNat).isEmpty then ['0'] else ds.drop (power + 1).toNat), none⟩

theorem toList_scientific :
    (String.ofList (ds.take 1) ++ (if ds.length = 1 then "" else "." ++ String.ofList (ds.drop 1))
      ++ "e" ++ (if power < 0 then "-" else "+") ++ toString power.natAbs).toList =
      (scientific ds power negative).unsigned := by
  by_cases hone : ds.length = 1 <;> by_cases hlow : power < 0 <;>
    simp [scientific, hone, hlow, Spelling.unsigned, Spelling.fractionChars,
      Spelling.exponentChars]

theorem toList_belowOne :
    ("0." ++ zeros (-power - 1) ++ String.ofList ds).toList =
      (belowOne ds power negative).unsigned := by
  simp [belowOne, zeros, Spelling.unsigned, Spelling.fractionChars, Spelling.exponentChars]

theorem toList_fromOne :
    (String.ofList (ds.take (power + 1).toNat) ++ zeros exponent ++ "."
      ++ (if (ds.drop (power + 1).toNat).isEmpty then "0"
        else String.ofList (ds.drop (power + 1).toNat))).toList =
      (fromOne ds power exponent negative).unsigned := by
  rw [fromOne]
  cases (ds.drop (power + 1).toNat).isEmpty <;>
    simp [zeros, Spelling.unsigned, Spelling.fractionChars, Spelling.exponentChars]

variable {ds power exponent}

theorem proper_scientific (h : Spelling.IsDigits ds) :
    (scientific ds power negative).Proper where
  whole := ⟨by simpa [scientific] using h.1, fun c hc => h.2 c (List.mem_of_mem_take hc)⟩
  front := fun _ => by
    have := List.length_pos_of_ne_nil h.1
    rw [scientific, List.length_take]
    omega
  fraction := fun digits hdigits => by
    have := List.length_pos_of_ne_nil h.1
    simp only [scientific, Option.mem_def, ite_eq_iff, reduceCtorEq, and_false, false_or,
      Option.some.injEq] at hdigits
    obtain ⟨hmore, rfl⟩ := hdigits
    refine ⟨?_, fun c hc => h.2 c (List.mem_of_mem_drop hc)⟩
    rw [← List.length_pos_iff_ne_nil, List.length_drop]
    omega
  exponent := fun e he => Option.some.inj he ▸ Spelling.isDigits_toDigits _

theorem isDigits_zero : Spelling.IsDigits ['0'] :=
  ⟨by decide, List.forall_mem_singleton.mpr rfl⟩

theorem isAsciiDigit_of_mem_zeros {n : Nat} {c : Char} (h : c ∈ List.replicate n '0') :
    Json.Token.isAsciiDigit c = true := by
  rw [List.eq_of_mem_replicate h]
  rfl

theorem proper_belowOne (h : Spelling.IsDigits ds) : (belowOne ds power negative).Proper where
  whole := isDigits_zero
  front := fun _ => rfl
  fraction := fun digits hdigits => by
    cases hdigits
    exact ⟨List.append_ne_nil_of_right_ne_nil _ h.1, List.forall_mem_append.mpr
      ⟨fun c hc => isAsciiDigit_of_mem_zeros hc, h.2⟩⟩
  exponent := fun e he => by cases he

theorem proper_fromOne (h : Spelling.IsDigits ds) (hpower : 0 ≤ power)
    (hfront : ds.head? = some '0' → ds.length = 1 ∧ exponent ≤ 0) :
    (fromOne ds power exponent negative).Proper := by
  obtain ⟨c, rest, rfl⟩ := List.exists_cons_of_ne_nil h.1
  obtain ⟨places, hplaces⟩ : ∃ places, (power + 1).toNat = places + 1 :=
    ⟨power.toNat, by omega⟩
  rw [fromOne, hplaces]
  exact {
    whole := ⟨by simp, List.forall_mem_append.mpr
      ⟨fun c hc => h.2 c (List.mem_of_mem_take hc), fun c hc => isAsciiDigit_of_mem_zeros hc⟩⟩
    front := fun hhead => by
      obtain ⟨hone, hexponent⟩ := hfront hhead
      have hnone : exponent.toNat = 0 := by omega
      rw [hnone, List.length_append, List.length_take, hone]
      simp
    fraction := fun digits hdigits => by
      rw [Option.mem_def, Option.some.injEq] at hdigits
      subst hdigits
      split
      · exact isDigits_zero
      · rename_i hne
        exact ⟨fun he => hne (List.isEmpty_iff.mpr he),
          fun c hc => h.2 c (List.mem_of_mem_drop hc)⟩
    exponent := fun e he => by cases he }

end Shapes

/-- Finite doubles are written as numerals. -/
theorem exists_spelling {d : Double} (h : d.isFinite = true) :
    ∃ s : Spelling, s.Proper ∧ d.render.toList = s.chars := by
  have hsigned {text : String} {s : Spelling} (hneg : s.negative = d.negative)
      (htext : text.toList = s.unsigned) :
      ((if d.negative then "-" else "") ++ text).toList = s.chars := by
    rw [String.toList_append, htext, Spelling.chars, hneg]
    cases d.negative <;> rfl
  rw [render]
  simp only [h, Bool.not_true, Bool.false_eq_true, if_false]
  by_cases hzero : d.isZero = true
  · rw [if_pos hzero]
    exact ⟨⟨d.negative, ['0'], some ['0'], none⟩,
      ⟨isDigits_zero, fun _ => rfl, fun ds hds => Option.some.inj hds ▸ isDigits_zero,
        fun e he => by cases he⟩, hsigned rfl rfl⟩
  rw [if_neg hzero]
  have hdigits := digits_shortest (Bool.eq_false_of_not_eq_true hzero)
  have hds := Spelling.isDigits_toDigits d.shortest.digits
  have hfront : (Nat.toDigits 10 d.shortest.digits).head? = some '0' →
      (Nat.toDigits 10 d.shortest.digits).length = 1 ∧ d.shortest.exponent ≤ 0 := by
    intro hhead
    rcases hdigits with hpos | hnone
    · exact absurd hhead (Spelling.head?_toDigits hpos)
    · rw [hnone]
      decide
  generalize Nat.toDigits 10 d.shortest.digits = ds at *
  generalize d.shortest.exponent + ds.length - 1 = power
  by_cases hfar : (!positional power) = true
  · rw [if_pos hfar]
    exact ⟨_, proper_scientific d.negative hds, hsigned rfl (toList_scientific ds power d.negative)⟩
  rw [if_neg hfar]
  by_cases hlow : power < 0
  · rw [if_pos hlow]
    exact ⟨_, proper_belowOne d.negative hds, hsigned rfl (toList_belowOne ds power d.negative)⟩
  · rw [if_neg hlow]
    exact ⟨_, proper_fromOne d.negative hds (Int.not_lt.mp hlow) hfront,
      hsigned rfl (toList_fromOne ds power d.shortest.exponent d.negative)⟩

end Double

end Guardrail
