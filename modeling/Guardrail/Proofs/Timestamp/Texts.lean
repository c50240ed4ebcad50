import Guardrail.Proofs.Json.Numerals
import Guardrail.Proofs.Timestamp.Calendar
import Guardrail.Proofs.Text.Numerals
import Mathlib.Data.List.Induction

/-! # Times that are read as they were written

What a text says is always a time in a certain range (`inRange_of_parse`), and every time of that
range is read again from its text (`parse_render`): the date leads back to the day, each part is
written with digits enough, and the sixtieth second of a minute comes back as it was. -/

namespace Guardrail.Timestamp

/-- What the parts of a text stand for, once all of it has been read. -/
def ofParts (year : Int) (month day hour minute second fraction : Nat) (offset : Int) :
    Option Timestamp :=
  if year < minYear || maxYear < year || month < 1 || 12 < month || day < 1 then none
  else if daysInMonth year month < day || 23 < hour || 59 < minute || 60 < second then none
  else if 86400 ≤ offset.natAbs then none
  else
    let seconds : Int := hour * 3600 + minute * 60 + min second 59 - offset
    let utcDay := dayOfDate year month day + seconds / 86400
    if (dateOfDay utcDay).1 < minYear || maxYear < (dateOfDay utcDay).1 then none
    else some ⟨utcDay, (seconds % 86400).toNat, fraction + (if second = 60 then 1000000000 else 0)⟩

theorem parse_eq (text : String) : parse text = (do
    let (year, cs) ← readYear text.toList
    let cs ← expect '-' cs
    let (month, cs) ← readNumber 2 cs
    let cs ← expect '-' cs
    let (day, cs) ← readNumber 2 cs
    let cs ← readSeparator cs
    let (hour, cs) ← readNumber 2 cs
    let cs ← expect ':' cs
    let (minute, cs) ← readNumber 2 cs
    let cs ← expect ':' cs
    let (second, cs) ← readNumber 2 cs
    let (fraction, cs) ← readFraction cs
    let (offset, cs) ← readOffset (skipBlanks cs)
    if !(skipBlanks cs).isEmpty then none
    else ofParts year month day hour minute second fraction offset) := rfl

/-! ## Times that can be read -/

structure InRange (t : Timestamp) : Prop where
  year : minYear ≤ (dateOfDay t.day).1 ∧ (dateOfDay t.day).1 ≤ maxYear
  second : t.secondOfDay < 86400
  nanosecond : t.nanosecond < 2000000000
  /-- More than a second of nanoseconds stands for the sixtieth second of a minute. -/
  leap : 1000000000 ≤ t.nanosecond → t.secondOfDay % 60 = 59

theorem numberOf_lt {cs : List Char} (h : ∀ c ∈ cs, isAsciiDigit c = true) :
    numberOf cs < tenTo cs.length := by
  induction cs using List.reverseRecOn with
  | nil => decide
  | append_singleton cs c ih =>
    obtain ⟨hcs, hc⟩ := List.forall_mem_append.mp h
    obtain ⟨d, hd, -, hvalue⟩ := Json.Token.exists_digitChar (hc c List.mem_cons_self)
    have hnumber : numberOf (cs ++ [c]) = numberOf cs * 10 + (c.toNat - '0'.toNat) := by
      rw [numberOf, List.foldl_append]
      rfl
    have hlength : tenTo (cs ++ [c]).length = tenTo cs.length * 10 := by
      rw [List.length_append]
      exact Nat.pow_succ ..
    have := ih hcs
    omega

theorem tenTo_mul {k : Nat} (h : k ≤ 9) : tenTo k * tenTo (9 - k) = 1000000000 := by
  show 10 ^ k * 10 ^ (9 - k) = 10 ^ 9
  rw [← Nat.pow_add, Nat.add_sub_cancel' h]

theorem readFraction_lt {cs rest : List Char} {n : Nat} (h : readFraction cs = some (n, rest)) :
    n < 1000000000 := by
  rw [readFraction.eq_def] at h
  split at h
  · rename_i rest
    simp only at h
    split at h
    · cases h
    · cases h
      have hdigits : ∀ c ∈ (rest.takeWhile isAsciiDigit).take 9, isAsciiDigit c = true :=
        fun c hc => List.mem_takeWhile_imp (List.mem_of_mem_take hc)
      have hlt := numberOf_lt hdigits
      rw [List.length_take] at hlt
      rw [← tenTo_mul (Nat.min_le_left 9 (rest.takeWhile isAsciiDigit).length)]
      exact Nat.mul_lt_mul_of_pos_right hlt (Nat.pow_pos (by decide))
  · cases h
    decide

/-- Hours and minutes after a sign. -/
def readSigned (sign : Int) (rest : List Char) : Option (Int × List Char) := do
  let (hours, rest) ← readTwoDigits rest
  let (minutes, rest) ← readTwoDigits (rest.dropWhile fun c => c = ':' || Text.isBlank c)
  if minutes < 60 then some (sign * (hours * 3600 + minutes * 60), rest) else none

theorem readSigned_dvd {sign offset : Int} {cs rest : List Char}
    (h : readSigned sign cs = some (offset, rest)) : offset % 60 = 0 := by
  obtain ⟨⟨hours, rest⟩, -, h⟩ := Option.bind_eq_some_iff.mp h
  obtain ⟨⟨minutes, rest⟩, -, h⟩ := Option.bind_eq_some_iff.mp h
  simp only at h
  split at h
  · cases h
    have hminutes : (hours * 3600 + minutes * 60 : Int) = (hours * 60 + minutes) * 60 := by omega
    rw [hminutes, ← Int.mul_assoc]
    exact Int.mul_emod_left _ _
  · cases h

theorem readOffset_dvd {cs rest : List Char} {offset : Int}
    (h : readOffset cs = some (offset, rest)) : offset % 60 = 0 := by
  rw [readOffset.eq_def] at h
  split at h
  · exact readSigned_dvd h
  · exact readSigned_dvd h
  · exact readSigned_dvd h
  · split_ifs at h <;> cases h <;> rfl
  · cases h

theorem inRange_of_ofParts {year offset : Int} {month day hour minute second fraction : Nat}
    {t : Timestamp} (hfraction : fraction < 1000000000) (hoffset : offset % 60 = 0)
    (h : ofParts year month day hour minute second fraction offset = some t) : InRange t := by
  simp only [ofParts] at h
  split at h
  · cases h
  split at h
  · cases h
  rename_i htime
  split at h
  · cases h
  split at h
  · cases h
  rename_i hyear
  cases h
  simp only [Bool.or_eq_true, decide_eq_true_eq] at htime hyear
  obtain ⟨hlow, hhigh⟩ := not_or.mp hyear
  refine ⟨⟨Int.not_lt.mp hlow, Int.not_lt.mp hhigh⟩, ?_, ?_, fun hleap => ?_⟩
  · show (_ : Int).toNat < 86400
    omega
  · show fraction + (if second = 60 then 1000000000 else 0) < 2000000000
    split <;> omega
  · have hsixty : second = 60 := by
      by_contra hne
      simp only [if_neg hne] at hleap
      omega
    show (_ : Int).toNat % 60 = 59
    omega

theorem inRange_of_parse {text : String} {t : Timestamp} (h : parse text = some t) : InRange t := by
  rw [parse_eq] at h
  obtain ⟨⟨year, cs⟩, -, h⟩ := Option.bind_eq_some_iff.mp h
  obtain ⟨cs, -, h⟩ := Option.bind_eq_some_iff.mp h
  obtain ⟨⟨month, cs⟩, -, h⟩ := Option.bind_eq_some_iff.mp h
  obtain ⟨cs, -, h⟩ := Option.bind_eq_some_iff.mp h
  obtain ⟨⟨day, cs⟩, -, h⟩ := Option.bind_eq_some_iff.mp h
  obtain ⟨cs, -, h⟩ := Option.bind_eq_some_iff.mp h
  obtain ⟨⟨hour, cs⟩, -, h⟩ := Option.bind_eq_some_iff.mp h
  obtain ⟨cs, -, h⟩ := Option.bind_eq_some_iff.mp h
  obtain ⟨⟨minute, cs⟩, -, h⟩ := Option.bind_eq_some_iff.mp h
  obtain ⟨cs, -, h⟩ := Option.bind_eq_some_iff.mp h
  obtain ⟨⟨second, cs⟩, -, h⟩ := Option.bind_eq_some_iff.mp h
  obtain ⟨⟨fraction, cs⟩, hfraction, h⟩ := Option.bind_eq_some_iff.mp h
  obtain ⟨⟨offset, cs⟩, hoffset, h⟩ := Option.bind_eq_some_iff.mp h
  simp only at h
  split at h
  · cases h
  · exact inRange_of_ofParts (readFraction_lt hfraction) (readOffset_dvd hoffset) h

/-! ## Reading what has been written -/

open Json (Spelling)
open Json.Token (NoDigit)

theorem numberOf_eq (cs : List Char) : numberOf cs = Nat.ofDigitChars 10 cs 0 := by
  rw [numberOf, Nat.ofDigitChars_eq_foldl]
  simp only [Nat.mul_comm]

theorem toList_padded (width n : Nat) : (padded width n).toList =
    List.replicate (width - (Nat.toDigits 10 n).length) '0' ++ Nat.toDigits 10 n :=
  String.toList_ofList

theorem isDigits_padded (width n : Nat) : Spelling.IsDigits (padded width n).toList := by
  have hds := Spelling.isDigits_toDigits n
  rw [toList_padded]
  exact ⟨List.append_ne_nil_of_right_ne_nil _ hds.1, List.forall_mem_append.mpr
    ⟨fun c hc => Double.isAsciiDigit_of_mem_zeros hc, hds.2⟩⟩

theorem numberOf_padded (width n : Nat) : numberOf (padded width n).toList = n := by
  rw [numberOf_eq, toList_padded, Nat.ofDigitChars_append, Nat.ofDigitChars_replicate_zero,
    Nat.mul_zero, Nat.ofDigitChars_ten_toDigits]

theorem length_padded {width n : Nat} (hwidth : 0 < width) (h : n < tenTo width) :
    (padded width n).toList.length = width := by
  have hle : (Nat.toDigits 10 n).length ≤ width :=
    (Nat.length_toDigits_le_iff (by decide) hwidth).mpr h
  rw [toList_padded, List.length_append, List.length_replicate]
  omega

variable {ds rest : List Char}

theorem skipBlanks_digits (h : Spelling.IsDigits ds) (rest : List Char) :
    skipBlanks (ds ++ rest) = ds ++ rest := by
  obtain ⟨c, cs, rfl⟩ := List.exists_cons_of_ne_nil h.1
  have hc : Text.isBlank c = false := Text.isBlank_of_isDigit (h.2 c List.mem_cons_self)
  exact List.dropWhile_cons_of_neg (by simp [hc])

theorem takeWhile_digits {more : List Char} (h : Spelling.IsDigits ds) (hmore : NoDigit more) :
    (ds ++ more).takeWhile isAsciiDigit = ds := by
  show (ds ++ more).takeWhile Json.Token.isAsciiDigit = ds
  rw [List.takeWhile_append_of_pos h.2]
  exact (congrArg (ds ++ ·) (Json.Token.takeWhile_digits hmore)).trans (List.append_nil ds)

/-- Digits that fill the width, or that no digit follows. -/
theorem readNumber_append {width : Nat} (h : Spelling.IsDigits ds) (hle : ds.length ≤ width)
    (hend : ds.length = width ∨ NoDigit rest) :
    readNumber width (ds ++ rest) = some (numberOf ds, rest) := by
  have hmore : NoDigit (rest.take (width - ds.length)) := by
    rcases hend with hfull | hrest
    · rw [hfull, Nat.sub_self, List.take_zero]
      exact fun c hc => by cases hc
    · cases rest with
      | nil => simpa using hrest
      | cons c cs =>
        cases width - ds.length with
        | zero => exact fun c hc => by cases hc
        | succ n => exact hrest
  have hdigits : ((ds ++ rest).take width).takeWhile isAsciiDigit = ds := by
    rw [List.take_append, List.take_of_length_le hle]
    exact takeWhile_digits h hmore
  have hne : ds.isEmpty = false := List.isEmpty_eq_false_iff.mpr h.1
  rw [readNumber]
  simp only [skipBlanks_digits h, hdigits, hne, Bool.false_eq_true, if_false, List.drop_left]

theorem readNumber_padded {n : Nat} (h : n < 100) (rest : List Char) :
    readNumber 2 ((padded 2 n).toList ++ rest) = some (n, rest) := by
  have hlength := length_padded (show 0 < 2 by decide) h
  rw [readNumber_append (isDigits_padded 2 n) hlength.le (.inl hlength), numberOf_padded]

theorem readYear_digits (h : Spelling.IsDigits ds) (hle : ds.length ≤ 4)
    (hend : ds.length = 4 ∨ NoDigit rest) :
    readYear (ds ++ rest) = some ((numberOf ds : Int), rest) := by
  have hread := readNumber_append h hle hend
  obtain ⟨c, cs, rfl⟩ := List.exists_cons_of_ne_nil h.1
  have hcs : readYear (c :: cs ++ rest) =
      (readNumber 4 (c :: cs ++ rest)).map fun (n, cs') => ((n : Int), cs') := by
    rw [readYear, skipBlanks_digits h]
    obtain ⟨d, hd, hc, -⟩ := Json.Token.exists_digitChar (h.2 c List.mem_cons_self)
    subst hc
    interval_cases d <;> rfl
  rw [hcs, hread]
  rfl

theorem readYear_signed {sign : Char} {factor : Int}
    (hsign : sign = '-' ∧ factor = -1 ∨ sign = '+' ∧ factor = 1) (h : Spelling.IsDigits ds)
    (hrest : NoDigit rest) :
    readYear (sign :: (ds ++ rest)) = some (factor * numberOf ds, rest) := by
  have hread := readNumber_append h
    (show ds.length ≤ (ds ++ rest).length by rw [List.length_append]; omega) (.inr hrest)
  obtain ⟨c, cs, rfl⟩ := List.exists_cons_of_ne_nil h.1
  have hc : isAsciiDigit c = true := h.2 c List.mem_cons_self
  rcases hsign with ⟨rfl, rfl⟩ | ⟨rfl, rfl⟩
  · have hskip : skipBlanks ('-' :: (c :: cs ++ rest)) = '-' :: c :: (cs ++ rest) := rfl
    rw [readYear, hskip]
    simp only [hc, if_true]
    rw [← List.cons_append, hread, Int.neg_one_mul]
    rfl
  · have hskip : skipBlanks ('+' :: (c :: cs ++ rest)) = '+' :: c :: (cs ++ rest) := rfl
    rw [readYear, hskip]
    simp only [hc, if_true]
    rw [← List.cons_append, hread, Int.one_mul]
    rfl

theorem readYear_yearText (y : Int) (rest : List Char) :
    readYear ((yearText y).toList ++ '-' :: rest) = some (y, '-' :: rest) := by
  have hdash : NoDigit ('-' :: rest) := Json.Token.noDigit_of_head rfl rest
  have hds := isDigits_padded 4 y.natAbs
  rw [yearText]
  split
  · rename_i hplain
    simp only [Bool.and_eq_true, decide_eq_true_eq] at hplain
    have hlength := length_padded (show 0 < 4 by decide) (show y.natAbs < tenTo 4 by
      rw [show tenTo 4 = 10000 from rfl]
      omega)
    have habs : y.toNat = y.natAbs := by omega
    rw [habs, readYear_digits hds hlength.le (.inl hlength), numberOf_padded]
    exact congrArg some (Prod.ext (by show (y.natAbs : Int) = y; omega) rfl)
  · by_cases hneg : y < 0
    · have hsign : ((if y < 0 then "-" else "+") ++ padded 4 y.natAbs).toList ++ '-' :: rest =
          '-' :: ((padded 4 y.natAbs).toList ++ '-' :: rest) := by
        simp [hneg]
      have habs : -1 * (y.natAbs : Int) = y := by omega
      rw [hsign, readYear_signed (.inl ⟨rfl, rfl⟩) hds hdash, numberOf_padded, habs]
    · have hsign : ((if y < 0 then "-" else "+") ++ padded 4 y.natAbs).toList ++ '-' :: rest =
          '+' :: ((padded 4 y.natAbs).toList ++ '-' :: rest) := by
        simp [hneg]
      have habs : 1 * (y.natAbs : Int) = y := by omega
      rw [hsign, readYear_signed (.inr ⟨rfl, rfl⟩) hds hdash, numberOf_padded, habs]

theorem readFraction_digits (h : Spelling.IsDigits ds) (hle : ds.length ≤ 9)
    (hrest : NoDigit rest) :
    readFraction ('.' :: (ds ++ rest)) = some (numberOf ds * tenTo (9 - ds.length), rest) := by
  have hne : ds.isEmpty = false := List.isEmpty_eq_false_iff.mpr h.1
  rw [readFraction]
  simp only [takeWhile_digits h hrest, hne, Bool.false_eq_true, if_false, List.drop_left,
    List.take_of_length_le hle, Nat.min_eq_right hle]

/-- The fraction is written with as many digits as it needs, and the others are zeros. -/
theorem readFraction_point {width n : Nat} (hwidth : 0 < width) (hle : width ≤ 9)
    (hn : n * tenTo (9 - width) < 1000000000) (rest : List Char) :
    readFraction (("." ++ padded width n).toList ++ 'Z' :: rest) =
      some (n * tenTo (9 - width), 'Z' :: rest) := by
  have hlt : n < tenTo width := by
    rw [← tenTo_mul hle] at hn
    exact Nat.lt_of_mul_lt_mul_right hn
  have hlength := length_padded hwidth hlt
  have hz : NoDigit ('Z' :: rest) := Json.Token.noDigit_of_head rfl rest
  have hpoint : ("." ++ padded width n).toList ++ 'Z' :: rest =
      '.' :: ((padded width n).toList ++ 'Z' :: rest) := by
    simp
  rw [hpoint, readFraction_digits (isDigits_padded width n) (hlength.le.trans hle) hz,
    numberOf_padded, hlength]

theorem readFraction_fractionText {n : Nat} (h : n < 1000000000) (rest : List Char) :
    readFraction ((fractionText n).toList ++ 'Z' :: rest) = some (n, 'Z' :: rest) := by
  have hsix : tenTo (9 - 3) = 1000000 := rfl
  have hthree : tenTo (9 - 6) = 1000 := rfl
  rw [fractionText]
  split_ifs with hzero hmillis hmicros
  · subst hzero
    rfl
  · have hn : n / 1000000 * tenTo (9 - 3) = n := by rw [hsix]; omega
    rw [readFraction_point (by decide) (by decide) (hn.symm ▸ h), hn]
  · have hn : n / 1000 * tenTo (9 - 6) = n := by rw [hthree]; omega
    rw [readFraction_point (by decide) (by decide) (hn.symm ▸ h), hn]
  · have hn : n * tenTo (9 - 9) = n := Nat.mul_one n
    rw [readFraction_point (by decide) le_rfl (hn.symm ▸ h), hn]

theorem ofParts_parts {t : Timestamp} (h : InRange t) :
    ofParts (dateOfDay t.day).1 (dateOfDay t.day).2.1 (dateOfDay t.day).2.2 (t.secondOfDay / 3600)
      (t.secondOfDay / 60 % 60) (t.secondOfDay % 60 + t.nanosecond / 1000000000)
      (t.nanosecond % 1000000000) 0 = some t := by
  obtain ⟨⟨hlow, hhigh⟩, hsecond, hnanosecond, hleap⟩ := h
  obtain ⟨⟨y, m, d⟩, hdate⟩ : ∃ date, dateOfDay t.day = date := ⟨_, rfl⟩
  obtain ⟨hm, hd, hday⟩ := dateOfDay_spec hdate
  rw [hdate] at hlow hhigh ⊢
  obtain ⟨day, secondOfDay, nanosecond⟩ := t
  simp only at hsecond hnanosecond hleap hdate hday hlow hhigh ⊢
  have hsixty : secondOfDay % 60 + nanosecond / 1000000000 = 60 ↔ 1000000000 ≤ nanosecond := by
    omega
  have hseconds : (((secondOfDay / 3600 : Nat) : Int) * 3600
      + ((secondOfDay / 60 % 60 : Nat) : Int) * 60
      + ((min (secondOfDay % 60 + nanosecond / 1000000000) 59 : Nat) : Int) - 0) = secondOfDay := by
    omega
  have hday' : day + (secondOfDay : Int) / 86400 = day := by omega
  have htime : ((secondOfDay : Int) % 86400).toNat = secondOfDay := by omega
  have hns : nanosecond % 1000000000 + (if 1000000000 ≤ nanosecond then 1000000000 else 0) =
      nanosecond := by
    split <;> omega
  simp only [ofParts, hseconds, hday, hday', htime, hdate, hsixty, hns]
  rw [if_neg, if_neg, if_neg (by decide), if_neg]
  all_goals
    simp only [Bool.or_eq_true, decide_eq_true_eq]
    omega

theorem parse_render {t : Timestamp} (h : InRange t) : parse t.render = some t := by
  obtain ⟨⟨y, m, d⟩, hdate⟩ : ∃ date, dateOfDay t.day = date := ⟨_, rfl⟩
  obtain ⟨hm, hd, -⟩ := dateOfDay_spec hdate
  have hparts := ofParts_parts h
  rw [hdate] at hparts
  have hmonth : daysInMonth y m ≤ 31 := by
    rw [daysInMonth]
    split_ifs <;> decide
  have hsecond := h.second
  have hleap := h.leap
  have hnanosecond := h.nanosecond
  have htext : t.render.toList = (yearText y).toList ++ '-' :: ((padded 2 m).toList
      ++ '-' :: ((padded 2 d).toList ++ 'T' :: ((padded 2 (t.secondOfDay / 3600)).toList
      ++ ':' :: ((padded 2 (t.secondOfDay / 60 % 60)).toList
      ++ ':' :: ((padded 2 (t.secondOfDay % 60 + t.nanosecond / 1000000000)).toList
      ++ ((fractionText (t.nanosecond % 1000000000)).toList ++ ['Z'])))))) := by
    simp [render, hdate]
  have hdash (cs : List Char) : expect '-' ('-' :: cs) = some cs := rfl
  have hcolon (cs : List Char) : expect ':' (':' :: cs) = some cs := rfl
  have hseparator (cs : List Char) : readSeparator ('T' :: cs) = some cs := rfl
  have hoffset : readOffset (skipBlanks ['Z']) = some (0, []) := rfl
  have hfraction := readFraction_fractionText
    (show t.nanosecond % 1000000000 < 1000000000 by omega) []
  rw [parse_eq, htext]
  refine Option.bind_eq_some_iff.mpr ⟨_, readYear_yearText y _, ?_⟩
  refine Option.bind_eq_some_iff.mpr ⟨_, hdash _, ?_⟩
  refine Option.bind_eq_some_iff.mpr ⟨_, readNumber_padded (show m < 100 by omega) _, ?_⟩
  refine Option.bind_eq_some_iff.mpr ⟨_, hdash _, ?_⟩
  refine Option.bind_eq_some_iff.mpr ⟨_, readNumber_padded (show d < 100 by omega) _, ?_⟩
  refine Option.bind_eq_some_iff.mpr ⟨_, hseparator _, ?_⟩
  refine Option.bind_eq_some_iff.mpr ⟨_, readNumber_padded
    (show t.secondOfDay / 3600 < 100 by omega) _, ?_⟩
  refine Option.bind_eq_some_iff.mpr ⟨_, hcolon _, ?_⟩
  refine Option.bind_eq_some_iff.mpr ⟨_, readNumber_padded
    (show t.secondOfDay / 60 % 60 < 100 by omega) _, ?_⟩
  refine Option.bind_eq_some_iff.mpr ⟨_, hcolon _, ?_⟩
  refine Option.bind_eq_some_iff.mpr ⟨_, readNumber_padded
    (show t.secondOfDay % 60 + t.nanosecond / 1000000000 < 100 by omega) _, ?_⟩
  refine Option.bind_eq_some_iff.mpr ⟨_, hfraction, ?_⟩
  refine Option.bind_eq_some_iff.mpr ⟨_, hoffset, ?_⟩
  exact hparts

end Guardrail.Timestamp
