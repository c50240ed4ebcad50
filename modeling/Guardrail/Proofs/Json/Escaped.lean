import Guardrail.Json
import Guardrail.Proofs.Text.Ascii

/-! # Words in the text of a value

A string stands in the text of a JSON value with quotes, backslashes and control characters escaped,
so a word of the string can be gone from the text. An ASCII word survives if it is still there after
it has been escaped itself. Then every text of a value that has the word in one of its strings
mentions it. For any other word there is a value whose text does not: the word stands in it between
two letters that are not ASCII, so that nothing around it can make up for what has been escaped. -/

namespace Guardrail

/-! ## Strings of a value -/

namespace Json

mutual

/-- The strings of a value at any depth, the names of fields among them. -/
def texts : Json → List String
  | string s => [s]
  | array items => itemTexts items
  | object fields => fieldTexts fields
  | _ => []

def itemTexts : List Json → List String
  | [] => []
  | v :: rest => texts v ++ itemTexts rest

def fieldTexts : List (String × Json) → List String
  | [] => []
  | (k, v) :: rest => k :: (texts v ++ fieldTexts rest)

end

theorem infix_intercalate {part : List Char} {x separator : String} {items : List String}
    (hx : x ∈ items) (h : part <:+: x.toList) : part <:+: (separator.intercalate items).toList := by
  refine h.trans ?_
  rw [String.toList_intercalate]
  induction items with
  | nil => cases hx
  | cons y rest ih =>
    cases rest with
    | nil =>
      cases List.mem_singleton.mp hx
      simp
    | cons z rest =>
      rw [List.map_cons, List.map_cons, List.intercalate_cons_cons]
      rcases List.mem_cons.mp hx with rfl | hx
      · exact (List.prefix_append _ _).isInfix.trans (List.prefix_append _ _).isInfix
      · exact (ih hx).trans (List.suffix_append _ _).isInfix

mutual

theorem quoted_infix_compact {s : String} : ∀ {v : Json}, s ∈ v.texts →
    (quoted s).toList <:+: v.compact.toList
  | .string s', h => by
    cases List.mem_singleton.mp h
    exact List.infix_refl _
  | .array items, h => by
    obtain ⟨x, hx, hin⟩ := quoted_infix_items h
    rw [compact, String.toList_append, String.toList_append]
    exact List.infix_append_of_infix_left (List.infix_append_of_infix_right
      (infix_intercalate hx hin))
  | .object fields, h => by
    obtain ⟨x, hx, hin⟩ := quoted_infix_fields h
    rw [compact, String.toList_append, String.toList_append]
    exact List.infix_append_of_infix_left (List.infix_append_of_infix_right
      (infix_intercalate hx hin))

theorem quoted_infix_items {s : String} : ∀ {items : List Json}, s ∈ itemTexts items →
    ∃ x ∈ compactItems items, (quoted s).toList <:+: x.toList
  | v :: rest, h => by
    rcases List.mem_append.mp h with h | h
    · exact ⟨_, List.mem_cons_self .., quoted_infix_compact h⟩
    · obtain ⟨x, hx, hin⟩ := quoted_infix_items h
      exact ⟨x, List.mem_cons_of_mem _ hx, hin⟩

theorem quoted_infix_fields {s : String} : ∀ {fields : List (String × Json)},
    s ∈ fieldTexts fields → ∃ x ∈ compactFields fields, (quoted s).toList <:+: x.toList
  | (k, v) :: rest, h => by
    rcases List.mem_cons.mp h with rfl | h
    · refine ⟨_, List.mem_cons_self .., ?_⟩
      rw [String.toList_append, String.toList_append, List.append_assoc]
      exact (List.prefix_append _ _).isInfix
    · rcases List.mem_append.mp h with h | h
      · refine ⟨_, List.mem_cons_self .., (quoted_infix_compact h).trans ?_⟩
        rw [String.toList_append]
        exact (List.suffix_append _ _).isInfix
      · obtain ⟨x, hx, hin⟩ := quoted_infix_fields h
        exact ⟨x, List.mem_cons_of_mem _ hx, hin⟩

end

/-! ## Words of a string -/

theorem escaped_of_plain {c : Char} (hquote : c ≠ '"') (hbackslash : c ≠ '\\')
    (hc : 32 ≤ c.toNat) : escaped c = [c] := by
  have hne (d : Char) (hd : d.toNat < 32) : c ≠ d := by
    rintro rfl
    omega
  simp [escaped, hquote, hbackslash, hne '\n' (by decide), hne '\r' (by decide),
    hne '\t' (by decide), hne '\x08' (by decide), hne '\x0c' (by decide), Nat.not_lt.mpr hc]

theorem escaped_of_not_ascii {c : Char} (h : 128 ≤ c.toNat) : escaped c = [c] := by
  have hne (d : Char) (hd : d.toNat < 128) : c ≠ d := by
    rintro rfl
    omega
  exact escaped_of_plain (hne '"' (by decide)) (hne '\\' (by decide)) (by omega)

theorem map_toLower_escaped (c : Char) :
    (escaped c).map Char.toLower = escaped c.toLower := by
  by_cases h : c.toNat < 128
  · exact Text.forall_ascii (p := fun c => (escaped c).map Char.toLower = escaped c.toLower)
      (by decide +kernel) h
  · have hle := Nat.le_of_not_lt h
    simp [escaped_of_not_ascii hle, Text.toLower_of_not_ascii hle]

theorem map_toLower_flatMap_escaped (cs : List Char) :
    (cs.flatMap escaped).map Char.toLower = (cs.map Char.toLower).flatMap escaped := by
  rw [List.map_flatMap, List.flatMap_map]
  exact congrArg (cs.flatMap ·) (funext map_toLower_escaped)

theorem isAscii_flatMap_escaped {cs : List Char} (h : Text.IsAscii cs) :
    Text.IsAscii (cs.flatMap escaped) := by
  intro d hd
  obtain ⟨c, hc, hd⟩ := List.mem_flatMap.mp hd
  exact Text.forall_ascii (p := fun c => Text.IsAscii (escaped c)) (by decide +kernel) (h c hc) d hd

/-- One of the strings of the value has the word, ASCII case ignored. -/
def Holds (v : Json) (word : String) : Prop :=
  ∃ s ∈ v.texts, word.toList.map Char.toLower <:+: s.toList.map Char.toLower

/-- The word is still there after it has been escaped. -/
def Survives (word : String) : Prop :=
  word.toList.map Char.toLower <:+: (word.toList.map Char.toLower).flatMap escaped

instance : DecidablePred Survives := fun word =>
  inferInstanceAs (Decidable (word.toList.map Char.toLower <:+:
    (word.toList.map Char.toLower).flatMap escaped))

/-- Words of characters that are not escaped survive. -/
theorem survives_of_plain {word : String}
    (h : ∀ c ∈ word.toList, c ≠ '"' ∧ c ≠ '\\' ∧ 32 ≤ c.toNat) : Survives word := by
  have hsame : word.toList.flatMap escaped = word.toList := by
    rw [List.flatMap_congr fun c hc => escaped_of_plain (h c hc).1 (h c hc).2.1 (h c hc).2.2,
      List.flatMap_singleton']
  rw [Survives, ← map_toLower_flatMap_escaped, hsame]

/-- A text with the text of a value in it mentions the words of the value that survive. -/
theorem mentions_of_holds {v : Json} {text word : String} (h : Text.IsAscii word.toList)
    (hs : Survives word) (hv : v.Holds word) (htext : v.compact.toList <:+: text.toList) :
    Text.mentions text word = true := by
  obtain ⟨s, hmem, hin⟩ := hv
  apply Text.mentions_of_ascii h
  have hquoted : s.toList.flatMap escaped <:+: (quoted s).toList :=
    ⟨['"'], ['"'], by simp [quoted]⟩
  calc
    word.toList.map Char.toLower <:+: (word.toList.map Char.toLower).flatMap escaped := hs
    _ <:+: (s.toList.map Char.toLower).flatMap escaped := hin.flatMap escaped
    _ = (s.toList.flatMap escaped).map Char.toLower := (map_toLower_flatMap_escaped _).symm
    _ <:+: (quoted s).toList.map Char.toLower := hquoted.map _
    _ <:+: v.compact.toList.map Char.toLower := (quoted_infix_compact hmem).map _
    _ <:+: text.toList.map Char.toLower := htext.map _

/-! ## Words between two letters -/

theorem infix_of_not_mem {x : Char} {l a b : List Char} (hx : x ∉ l)
    (h : l <:+: a ++ x :: b) : l <:+: a ∨ l <:+: b := by
  obtain ⟨p, q, h⟩ := h
  rcases List.append_eq_append_iff.mp h with ⟨as, rfl, -⟩ | ⟨bs, hp, hb⟩
  · exact .inl ⟨p, as, rfl⟩
  cases bs with
  | nil => exact .inl ⟨p, [], by simpa using hp⟩
  | cons y bs =>
    obtain ⟨rfl, rfl⟩ := List.cons.inj hb
    rcases List.append_eq_append_iff.mp hp with ⟨as, rfl, rfl⟩ | ⟨cs, rfl, hl⟩
    · simp at hx
    -- The letter stands before the part, and the part after it.
    cases cs with
    | nil =>
      cases hl
      simp at hx
    | cons z cs =>
      obtain ⟨-, rfl⟩ := List.cons.inj hl
      exact .inr ⟨cs, q, rfl⟩

theorem lowerAfter_between {a b c : List Char} (ha : Text.IsAscii a) (hb : Text.IsAscii b)
    (hc : Text.IsAscii c) : Text.lowerAfter [] (a ++ 'é' :: (b ++ 'é' :: c)) =
      a.map Char.toLower ++ 'é' :: (b.map Char.toLower ++ 'é' :: c.map Char.toLower) := by
  have hletter : Text.lowerChar 'é' = ['é'] := by decide +kernel
  have hsigma : 'Σ' ∉ a ++ 'é' :: (b ++ 'é' :: c) := by
    simp [ha.sigma_not_mem, hb.sigma_not_mem, hc.sigma_not_mem]
  rw [Text.lowerAfter_eq_flatMap hsigma]
  simp [ha.flatMap_lowerChar, hb.flatMap_lowerChar, hc.flatMap_lowerChar, hletter]

/-- What has been escaped between two letters is not made up for by what stands around them. -/
theorem not_mentions_between {text word : String} {a c : List Char}
    (h : Text.IsAscii word.toList) (hs : ¬ Survives word) (ha : Text.IsAscii a)
    (hc : Text.IsAscii c)
    (htext : text.toList = a ++ 'é' :: (word.toList.flatMap escaped ++ 'é' :: c))
    (hbefore : ¬ word.toList.map Char.toLower <:+: a.map Char.toLower)
    (hafter : ¬ word.toList.map Char.toLower <:+: c.map Char.toLower) :
    Text.mentions text word = false := by
  have hletter : 'é' ∉ word.toList.map Char.toLower := by
    intro hm
    have := Text.isAscii_map_toLower.mpr h 'é' hm
    revert this
    decide
  rw [← Bool.not_eq_true, Text.mentions_iff, htext, h.lowerAfter,
    lowerAfter_between ha (isAscii_flatMap_escaped h) hc, map_toLower_flatMap_escaped]
  intro hin
  rcases infix_of_not_mem hletter hin with hin | hin
  · exact hbefore hin
  · rcases infix_of_not_mem hletter hin with hin | hin
    · exact hs hin
    · exact hafter hin

end Json

end Guardrail
