import Guardrail.Text.Search
import Mathlib.Data.List.Infix

/-! # Parts of a text in lower case

Lower-casing a text and one of its parts apart does not make the one a part of the other: whether a
capital sigma ends a word can be decided by characters outside the part. `lowerBetween` is the lower
case of a part in its place, and a sigma is open where its place matters. A term without an open
sigma is mentioned by every text that contains it, and any other term is missed by some text that
contains it, which is one letter longer than the term. -/

namespace Guardrail.Text

/-! ## Surroundings of a sigma -/

theorem reachesCased_append (cs ds : List Char) :
    reachesCased (cs ++ ds) =
      if cs.all isCaseIgnorable then reachesCased ds else reachesCased cs := by
  induction cs with
  | nil => rfl
  | cons c cs ih =>
    cases hc : isCaseIgnorable c with
    | true => simpa [reachesCased, hc] using ih
    | false => simp [reachesCased, hc]

theorem reachesCased_of_all {cs : List Char} (h : cs.all isCaseIgnorable = true) :
    reachesCased cs = false := by
  have happ := reachesCased_append cs []
  rw [List.append_nil, if_pos h] at happ
  exact happ

theorem reachesCased_letter : reachesCased ['a'] = true := by decide +kernel

def endsWord (before after : List Char) : Bool := reachesCased before && !reachesCased after

/-- What stands further before can make a sigma between these characters end a word. -/
def openBefore (before after : List Char) : Bool :=
  before.all isCaseIgnorable && !reachesCased after

/-- What stands further after can keep a sigma between these characters from ending a word. -/
def openAfter (before after : List Char) : Bool :=
  after.all isCaseIgnorable && reachesCased before

theorem endsWord_append {before after : List Char} (hb : openBefore before after = false)
    (ha : openAfter before after = false) (p q : List Char) :
    endsWord (before ++ p) (after ++ q) = endsWord before after := by
  unfold endsWord
  rw [reachesCased_append, reachesCased_append]
  cases hbs : before.all isCaseIgnorable with
  | false =>
    cases has : after.all isCaseIgnorable with
    | false => rfl
    | true =>
      have hr : reachesCased before = false := by simpa [openAfter, has] using ha
      simp [hr]
  | true =>
    have hr : reachesCased after = true := by simpa [openBefore, hbs] using hb
    have has : after.all isCaseIgnorable = false := by
      cases has : after.all isCaseIgnorable with
      | false => rfl
      | true => exact absurd (reachesCased_of_all has) (by simp [hr])
    simp [has, hr]

/-- Whether a capital sigma of the characters that follow `before` is open on one of its sides. -/
def hasOpenSigma (before : List Char) : List Char → Bool
  | [] => false
  | c :: rest =>
    (c == 'Σ' && (openBefore before rest || openAfter before rest)) ||
      hasOpenSigma (c :: before) rest

theorem exists_open {cs : List Char} : ∀ {before : List Char}, hasOpenSigma before cs = true →
    ∃ u v, cs = u ++ 'Σ' :: v ∧
      (openBefore (u.reverse ++ before) v = true ∨ openAfter (u.reverse ++ before) v = true) := by
  induction cs with
  | nil =>
    intro before h
    cases h
  | cons c rest ih =>
    intro before h
    rw [hasOpenSigma, Bool.or_eq_true, Bool.and_eq_true, beq_iff_eq, Bool.or_eq_true] at h
    rcases h with ⟨rfl, hopen⟩ | h
    · exact ⟨[], rest, rfl, hopen⟩
    · obtain ⟨u, v, rfl, hopen⟩ := ih h
      refine ⟨c :: u, v, rfl, ?_⟩
      rwa [List.reverse_cons, List.append_assoc]

/-! ## Lower case in place -/

/-- Lower case of one character between those before it, nearest first, and those after it. -/
def lowerAt (before : List Char) (c : Char) (after : List Char) : List Char :=
  if c = 'Σ' then [if endsWord before after then 'ς' else 'σ'] else lowerChar c

/-- Lower case of a part between what stands before it, nearest first, and what stands after it. -/
def lowerBetween (before : List Char) : List Char → List Char → List Char
  | [], _ => []
  | c :: rest, after => lowerAt before c (rest ++ after) ++ lowerBetween (c :: before) rest after

theorem lowerBetween_nil (part : List Char) : ∀ before : List Char,
    lowerBetween before part [] = lowerAfter before part := by
  induction part with
  | nil => exact fun _ => rfl
  | cons c rest ih =>
    intro before
    rw [lowerBetween, ih, List.append_nil]
    rfl

theorem lowerBetween_append (u v after : List Char) : ∀ before : List Char,
    lowerBetween before (u ++ v) after =
      lowerBetween before u (v ++ after) ++ lowerBetween (u.reverse ++ before) v after := by
  induction u with
  | nil => exact fun _ => rfl
  | cons c u ih =>
    intro before
    rw [List.cons_append, lowerBetween, lowerBetween, ih, List.append_assoc, List.append_assoc,
      List.reverse_cons, List.append_assoc]
    rfl

theorem lowerAt_of_ne {c : Char} (hc : c ≠ 'Σ') (before after : List Char) :
    lowerAt before c after = lowerChar c := if_neg hc

/-- A part without an open sigma has the same lower case in every place. -/
theorem lowerBetween_eq {part : List Char} (p q : List Char) : ∀ {before : List Char},
    hasOpenSigma before part = false →
      lowerBetween (before ++ p) part q = lowerBetween before part [] := by
  induction part with
  | nil => exact fun _ => rfl
  | cons c rest ih =>
    intro before h
    rw [hasOpenSigma, Bool.or_eq_false_iff] at h
    obtain ⟨hc, hrest⟩ := h
    have hat : lowerAt (before ++ p) c (rest ++ q) = lowerAt before c rest := by
      by_cases hs : c = 'Σ'
      · subst hs
        rw [beq_self_eq_true, Bool.true_and, Bool.or_eq_false_iff] at hc
        rw [lowerAt, lowerAt, endsWord_append hc.1 hc.2]
      · rw [lowerAt_of_ne hs, lowerAt_of_ne hs]
    have htail := ih hrest
    rw [List.cons_append] at htail
    rw [lowerBetween, lowerBetween, hat, htail, List.append_nil]

/-! ## Terms that a text contains -/

theorem lowerAfter_isInfix {part text : List Char} (h : hasOpenSigma [] part = false)
    (hpart : part <:+: text) : lowerAfter [] part <:+: lowerAfter [] text := by
  obtain ⟨u, v, rfl⟩ := hpart
  refine ⟨lowerBetween [] u (part ++ v), lowerBetween (part.reverse ++ u.reverse) v [], ?_⟩
  have hin : lowerBetween u.reverse part v = lowerBetween [] part [] := lowerBetween_eq u.reverse v h
  rw [← lowerBetween_nil, ← lowerBetween_nil, ← hin, lowerBetween_append, lowerBetween_append]
  simp only [List.append_nil, List.reverse_append]

/-- Sigmas apart, a letter counts as often in every place. -/
theorem count_lowerBetween_le {x : Char} {p q : List Char}
    (hle : ∀ before after, (lowerAt (before ++ p) 'Σ' (after ++ q)).count x ≤
      (lowerAt before 'Σ' after).count x) (part : List Char) : ∀ before after : List Char,
    (lowerBetween (before ++ p) part (after ++ q)).count x ≤
      (lowerBetween before part after).count x := by
  induction part with
  | nil => exact fun _ _ => Nat.le_refl _
  | cons c rest ih =>
    intro before after
    rw [lowerBetween, lowerBetween, List.count_append, List.count_append]
    refine Nat.add_le_add ?_ (ih (c :: before) after)
    by_cases hs : c = 'Σ'
    · subst hs
      rw [← List.append_assoc]
      exact hle before (rest ++ after)
    · rw [lowerAt_of_ne hs, lowerAt_of_ne hs]

theorem count_lowerBetween_lt {x : Char} {p q u v : List Char}
    (hle : ∀ before after, (lowerAt (before ++ p) 'Σ' (after ++ q)).count x ≤
      (lowerAt before 'Σ' after).count x)
    (hlt : (lowerAt (u.reverse ++ p) 'Σ' (v ++ q)).count x < (lowerAt u.reverse 'Σ' v).count x) :
    (lowerBetween p (u ++ 'Σ' :: v) q).count x <
      (lowerBetween [] (u ++ 'Σ' :: v) []).count x := by
  have hu := count_lowerBetween_le hle u [] ('Σ' :: v)
  have hv := count_lowerBetween_le hle v ('Σ' :: u.reverse) []
  simp only [List.nil_append, List.cons_append] at hu hv
  simp only [lowerBetween_append, lowerBetween, List.count_append, List.append_nil,
    List.cons_append] at hu hv ⊢
  omega

theorem count_sigma (before after : List Char) :
    (lowerAt before 'Σ' after).count 'σ' = (!endsWord before after).toNat := by
  rw [lowerAt, if_pos rfl]
  cases endsWord before after <;> rfl

theorem count_finalSigma (before after : List Char) :
    (lowerAt before 'Σ' after).count 'ς' = (endsWord before after).toNat := by
  rw [lowerAt, if_pos rfl]
  cases endsWord before after <;> rfl

theorem not_infix_of_count_lt {x : Char} {cs ds : List Char} (h : ds.count x < cs.count x) :
    ¬ cs <:+: ds := fun hin => Nat.not_le_of_lt h (hin.sublist.count_le x)

/-- A letter in front makes a sigma that is open before end its word, so a `σ` is lost. -/
theorem missed_of_openBefore {u v : List Char} (h : openBefore u.reverse v = true) :
    ¬ lowerAfter [] (u ++ 'Σ' :: v) <:+: lowerAfter [] ('a' :: (u ++ 'Σ' :: v)) := by
  rw [openBefore, Bool.and_eq_true, Bool.not_eq_true'] at h
  obtain ⟨hu, hv⟩ := h
  have hends : endsWord (u.reverse ++ ['a']) v = true := by
    rw [endsWord, reachesCased_append, if_pos hu, reachesCased_letter, hv]
    rfl
  have hstays : endsWord u.reverse v = false := by
    rw [endsWord, reachesCased_of_all hu, Bool.false_and]
  have hle (before after : List Char) : (lowerAt (before ++ ['a']) 'Σ' (after ++ [])).count 'σ' ≤
      (lowerAt before 'Σ' after).count 'σ' := by
    rw [count_sigma, count_sigma, List.append_nil, endsWord, endsWord, reachesCased_append,
      reachesCased_letter]
    cases reachesCased after with
    | true => simp
    | false =>
      split
      · exact Nat.zero_le _
      · exact Nat.le_refl _
  have hlt : (lowerAt (u.reverse ++ ['a']) 'Σ' (v ++ [])).count 'σ' <
      (lowerAt u.reverse 'Σ' v).count 'σ' := by
    rw [count_sigma, count_sigma, List.append_nil, hends, hstays]
    exact Nat.zero_lt_one
  apply not_infix_of_count_lt (x := 'σ')
  have hfirst : lowerAfter [] ('a' :: (u ++ 'Σ' :: v)) =
      'a' :: lowerAfter ['a'] (u ++ 'Σ' :: v) := rfl
  rw [hfirst, List.count_cons_of_ne (by decide), ← lowerBetween_nil, ← lowerBetween_nil]
  exact count_lowerBetween_lt hle hlt

/-- A letter behind keeps a sigma that is open after from ending its word, so a `ς` is lost. -/
theorem missed_of_openAfter {u v : List Char} (h : openAfter u.reverse v = true) :
    ¬ lowerAfter [] (u ++ 'Σ' :: v) <:+: lowerAfter [] ((u ++ 'Σ' :: v) ++ ['a']) := by
  rw [openAfter, Bool.and_eq_true] at h
  obtain ⟨hv, hu⟩ := h
  have hstays : endsWord u.reverse (v ++ ['a']) = false := by
    rw [endsWord, reachesCased_append, if_pos hv, reachesCased_letter, Bool.not_true,
      Bool.and_false]
  have hends : endsWord u.reverse v = true := by
    rw [endsWord, hu, reachesCased_of_all hv]
    rfl
  have hle (before after : List Char) : (lowerAt (before ++ []) 'Σ' (after ++ ['a'])).count 'ς' ≤
      (lowerAt before 'Σ' after).count 'ς' := by
    rw [count_finalSigma, count_finalSigma, List.append_nil, endsWord, endsWord,
      reachesCased_append, reachesCased_letter]
    cases reachesCased before with
    | false => exact Nat.le_refl _
    | true =>
      split
      · exact Nat.zero_le _
      · exact Nat.le_refl _
  have hlt : (lowerAt (u.reverse ++ []) 'Σ' (v ++ ['a'])).count 'ς' <
      (lowerAt u.reverse 'Σ' v).count 'ς' := by
    rw [count_finalSigma, count_finalSigma, List.append_nil, hends, hstays]
    exact Nat.zero_lt_one
  apply not_infix_of_count_lt (x := 'ς')
  have hlast (before : List Char) : lowerBetween before ['a'] [] = ['a'] := rfl
  rw [← lowerBetween_nil, ← lowerBetween_nil, lowerBetween_append, hlast, List.count_append,
    List.count_singleton]
  exact count_lowerBetween_lt hle hlt

/-- No capital sigma of the term is open, so every character has one lower case wherever the term
stands. -/
def Steady (term : String) : Prop := hasOpenSigma [] term.toList = false

instance : DecidablePred Steady :=
  fun term => inferInstanceAs (Decidable (hasOpenSigma [] term.toList = false))

theorem contains_iff {text part : String} :
    contains text part = true ↔ part.toList <:+: text.toList := occursIn_iff

theorem mentions_iff {text term : String} :
    mentions text term = true ↔ lowerAfter [] term.toList <:+: lowerAfter [] text.toList := by
  rw [mentions, contains_iff, lower, lower, String.toList_ofList, String.toList_ofList]

theorem mentions_of_contains {text term : String} (h : Steady term)
    (hin : contains text term = true) : mentions text term = true :=
  mentions_iff.mpr (lowerAfter_isInfix h (contains_iff.mp hin))

theorem exists_not_mentions {term : String} (h : ¬ Steady term) :
    ∃ text, contains text term = true ∧ mentions text term = false := by
  obtain ⟨u, v, he, hopen⟩ := exists_open (eq_true_of_ne_false h)
  rw [List.append_nil] at hopen
  have hmiss (cs : List Char) (hin : term.toList <:+: cs)
      (hlost : ¬ lowerAfter [] term.toList <:+: lowerAfter [] cs) :
      ∃ text, contains text term = true ∧ mentions text term = false := by
    refine ⟨String.ofList cs, ?_, ?_⟩
    · rwa [contains_iff, String.toList_ofList]
    · rwa [← Bool.not_eq_true, mentions_iff, String.toList_ofList]
  rcases hopen with hopen | hopen
  · refine hmiss ('a' :: term.toList) (List.suffix_cons _ _).isInfix ?_
    rw [he]
    exact missed_of_openBefore hopen
  · refine hmiss (term.toList ++ ['a']) (List.prefix_append _ _).isInfix ?_
    rw [he]
    exact missed_of_openAfter hopen

end Guardrail.Text
