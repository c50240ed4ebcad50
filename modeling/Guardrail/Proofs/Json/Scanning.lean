import Guardrail.Json
import Guardrail.Proofs.Json.Numerals

/-! # Scanning what has been written -/

namespace Guardrail.Json.Token

/-! ## Strings -/

theorem assemble_unit {n : Nat} (h : n < 0xD800) (ps : List Part) :
    assemble (.unit n :: ps) = (assemble ps).map (Char.ofNat n :: ·) := by
  have hlow : ¬ 0xD800 ≤ n := Nat.not_le.mpr h
  have hhigh : ¬ 0xDC00 ≤ n := fun hle => hlow (Nat.le_trans (by decide) hle)
  match ps with
  | [] => simp [assemble, hlow]
  | .char c :: rest => simp [assemble, hlow]
  | .unit m :: rest => simp [assemble, hlow, hhigh]

theorem hexValue?_hexDigit : ∀ n < 16, hexValue? (hexDigit n) = some n := by decide

/-- The part stands for the character and is what the text is scanned as, whatever follows. -/
def Spells (p : Part) (c : Char) (text : List Char) : Prop :=
  (∀ ps, assemble (p :: ps) = (assemble ps).map (c :: ·)) ∧
    ∀ rest, scanString (text ++ rest) = (scanString rest).map fun q => (p :: q.1, q.2)

theorem spells_simple {e c : Char} (hu : e ≠ 'u') (h : simpleEscape? e = some c) :
    Spells (.char c) c ['\\', e] := by
  refine ⟨fun ps => rfl, fun rest => ?_⟩
  rw [List.cons_append, List.singleton_append, scanString]
  · rw [h, Option.map_eq_bind]
    rfl
  · exact fun _ _ _ _ _ he => absurd he hu

theorem spells_control {c : Char} (h : c.toNat < 32) : Spells (.unit c.toNat) c
    ['\\', 'u', '0', '0', hexDigit (c.toNat / 16), hexDigit (c.toNat % 16)] := by
  refine ⟨fun ps => ?_, fun rest => ?_⟩
  · rw [assemble_unit (Nat.lt_trans h (by decide)), Char.ofNat_toNat]
  · have hhigh := hexValue?_hexDigit (c.toNat / 16) (by omega)
    have hlow := hexValue?_hexDigit (c.toNat % 16) (by omega)
    have hzero : hexValue? '0' = some 0 := rfl
    have hvalue : 0 * 4096 + 0 * 256 + c.toNat / 16 * 16 + c.toNat % 16 = c.toNat := by omega
    rw [Option.map_eq_bind]
    simp only [List.cons_append, List.nil_append, scanString, hzero, hhigh, hlow, hvalue,
      Option.bind_eq_bind, Option.bind_some, Function.comp_def]

theorem spells_plain {c : Char} (hquote : c ≠ '"') (hbackslash : c ≠ '\\')
    (h : ¬ c.toNat < 32) : Spells (.char c) c [c] := by
  refine ⟨fun ps => rfl, fun rest => ?_⟩
  rw [List.singleton_append, scanString]
  · rw [if_neg (by simp [h, hbackslash]), Option.map_eq_bind]
    rfl
  · exact hquote
  · rintro a b c d rest rfl
    exact absurd rfl hbackslash
  · rintro e rest rfl
    exact absurd rfl hbackslash

theorem exists_spells (c : Char) : ∃ p, Spells p c (escaped c) := by
  unfold escaped
  split_ifs with h₁ h₂ h₃ h₄ h₅ h₆ h₇ h₈
  · subst h₁
    exact ⟨_, spells_simple (by decide) rfl⟩
  · subst h₂
    exact ⟨_, spells_simple (by decide) rfl⟩
  · subst h₃
    exact ⟨_, spells_simple (by decide) rfl⟩
  · subst h₄
    exact ⟨_, spells_simple (by decide) rfl⟩
  · subst h₅
    exact ⟨_, spells_simple (by decide) rfl⟩
  · subst h₆
    exact ⟨_, spells_simple (by decide) rfl⟩
  · subst h₇
    exact ⟨_, spells_simple (by decide) rfl⟩
  · exact ⟨_, spells_control h₈⟩
  · exact ⟨_, spells_plain h₁ h₂ h₈⟩

theorem exists_parts (cs : List Char) : ∃ ps : List Part, assemble ps = some cs ∧
    ∀ rest, scanString (cs.flatMap escaped ++ '"' :: rest) = some (ps, rest) := by
  induction cs with
  | nil => exact ⟨[], rfl, fun rest => rfl⟩
  | cons c cs ih =>
    obtain ⟨p, hp, hscan⟩ := exists_spells c
    obtain ⟨ps, hps, hrest⟩ := ih
    refine ⟨p :: ps, by rw [hp, hps]; rfl, fun rest => ?_⟩
    rw [List.flatMap_cons, List.append_assoc, hscan, hrest]
    rfl

theorem scan_quoted (s : String) (rest : List Char) :
    scan ((quoted s).toList ++ rest) = some (string (some s), rest) := by
  obtain ⟨ps, hps, hscan⟩ := exists_parts s.toList
  have htext : (quoted s).toList ++ rest = '"' :: (s.toList.flatMap escaped ++ '"' :: rest) := by
    simp [quoted]
  rw [htext]
  show (scanString _).bind _ = _
  rw [hscan]
  show some (string ((assemble ps).map String.ofList), rest) = _
  rw [hps, Option.map_some, String.ofList_toList]

/-! ## Pieces of a text -/

/-- The characters are these tokens with blanks around them. -/
def Scans (cs : List Char) (ts : List Token) : Prop :=
  ∀ bound, cs.length ≤ bound → scanUpTo bound cs = some ts

variable {cs text rest : List Char} {t : Token} {ts later : List Token}

theorem Scans.nil : Scans [] [] := fun bound _ => by
  cases bound <;> rfl

theorem Scans.blanks (hblank : ∀ c ∈ cs, isSpace c = true) (h : Scans rest ts) :
    Scans (cs ++ rest) ts := by
  intro bound hbound
  rw [List.length_append] at hbound
  have hdrop : (cs ++ rest).dropWhile isSpace = rest.dropWhile isSpace :=
    List.dropWhile_append_of_pos hblank
  rw [← h bound (by omega), scanUpTo.eq_def, scanUpTo.eq_def bound rest]
  simp only [hdrop]

theorem Scans.token {c : Char} (hc : isSpace c = false)
    (hscan : scan (c :: cs ++ rest) = some (t, rest)) (h : Scans rest ts) :
    Scans (c :: cs ++ rest) (t :: ts) := by
  intro bound hbound
  obtain ⟨bound, rfl⟩ : ∃ n, bound = n + 1 :=
    ⟨bound - 1, by simp only [List.length_append, List.length_cons] at hbound; omega⟩
  have hrest : rest.length ≤ bound := by
    simp only [List.length_append, List.length_cons] at hbound
    omega
  have hdrop : (c :: cs ++ rest).dropWhile isSpace = c :: cs ++ rest :=
    List.dropWhile_cons_of_neg (by simp [hc])
  rw [scanUpTo, hdrop]
  show (scan (c :: cs ++ rest)).bind _ = _
  rw [hscan, Option.bind_some]
  show (scanUpTo bound rest).map _ = _
  rw [h bound hrest, Option.map_some]

theorem Scans.mark {c : Char} (hc : isSpace c = false) (hscan : scan (c :: rest) = some (t, rest))
    (h : Scans rest ts) : Scans (c :: rest) (t :: ts) :=
  Scans.token hc (show scan (c :: [] ++ rest) = some (t, rest) from hscan) h

theorem Scans.openArray (h : Scans rest ts) : Scans ('[' :: rest) (.openArray :: ts) :=
  Scans.mark rfl rfl h

theorem Scans.closeArray (h : Scans rest ts) : Scans (']' :: rest) (.closeArray :: ts) :=
  Scans.mark rfl rfl h

theorem Scans.openObject (h : Scans rest ts) : Scans ('\x7b' :: rest) (.openObject :: ts) :=
  Scans.mark rfl rfl h

theorem Scans.closeObject (h : Scans rest ts) : Scans ('\x7d' :: rest) (.closeObject :: ts) :=
  Scans.mark rfl rfl h

theorem Scans.colon (h : Scans rest ts) : Scans (':' :: rest) (.colon :: ts) :=
  Scans.mark rfl rfl h

theorem Scans.comma (h : Scans rest ts) : Scans (',' :: rest) (.comma :: ts) :=
  Scans.mark rfl rfl h

theorem Scans.quoted (s : String) (h : Scans rest ts) :
    Scans ((quoted s).toList ++ rest) (.string (some s) :: ts) := by
  have hscan := scan_quoted s rest
  obtain ⟨cs, hcs⟩ : ∃ cs, (Json.quoted s).toList = '"' :: cs :=
    ⟨s.toList.flatMap escaped ++ ['"'], by simp [Json.quoted]⟩
  rw [hcs] at hscan ⊢
  exact Scans.token rfl hscan h

/-- What stands around does not change how the text is scanned. -/
def Writes (text : List Char) (ts : List Token) : Prop :=
  ∀ rest later, Ends rest → Scans rest later → Scans (text ++ rest) (ts ++ later)

theorem Writes.token {c : Char} (hc : isSpace c = false)
    (hscan : ∀ rest, Ends rest → scan (c :: cs ++ rest) = some (t, rest)) :
    Writes (c :: cs) [t] :=
  fun rest _ hends h => Scans.token hc (hscan rest hends) h

theorem isSpace_of_digit {c : Char} (h : isAsciiDigit c = true) : isSpace c = false := by
  obtain ⟨d, hd, rfl, -⟩ := exists_digitChar h
  interval_cases d <;> rfl

theorem Writes.numeral {s : Spelling} (hs : s.Proper) : Writes s.chars [.numeral s.numeral] := by
  obtain ⟨c, cs, hchars, hc⟩ : ∃ c cs, s.chars = c :: cs ∧ isSpace c = false := by
    rw [Spelling.chars]
    cases s.negative with
    | true => exact ⟨'-', s.unsigned, rfl, rfl⟩
    | false =>
      obtain ⟨c, ds, hwhole⟩ := List.exists_cons_of_ne_nil hs.whole.1
      exact ⟨c, _, congrArg (· ++ _) hwhole,
        isSpace_of_digit (hs.whole.2 c (hwhole ▸ List.mem_cons_self))⟩
  have hscan (rest : List Char) (hends : Ends rest) := scan_chars hs hends
  rw [hchars] at hscan ⊢
  exact Writes.token hc hscan

theorem Writes.blanks (hblank : ∀ c ∈ cs, isSpace c = true) (h : Writes text ts) :
    Writes (cs ++ text) ts := fun rest later hends hrest => by
  rw [List.append_assoc]
  exact Scans.blanks hblank (h rest later hends hrest)

theorem ends_comma (rest : List Char) : Ends (',' :: rest) := ends_of_head (by decide) rest

/-- Texts with commas between them are scanned as their tokens with commas between them. -/
theorem Writes.intercalate {texts : List (List Char)} {tokens : List (List Token)}
    (h : List.Forall₂ Writes texts tokens) :
    Writes ([','].intercalate texts) ([Token.comma].intercalate tokens) := by
  induction h with
  | nil => exact fun rest later _ h => h
  | @cons text ts texts tokens hfirst hrest ih =>
    cases hrest with
    | nil => simpa using hfirst
    | cons hsecond hlater =>
      rw [List.intercalate_cons_cons, List.intercalate_cons_cons]
      intro rest later hends h
      rw [List.append_assoc, List.append_assoc, List.append_assoc, List.append_assoc]
      exact hfirst _ _ (ends_comma _) (Scans.comma (ih rest later hends h))

end Guardrail.Json.Token
