import Guardrail.Proofs.Text.Ascii
import Guardrail.Text.Injection

/-! # Letters in either case

Words of ASCII are sought by simple case folding. Lower case does not get in its way: beside letters
that no such word has it changes only the case of letters, except that it makes two characters of
`İ` (`lowered_lowerAfter`). -/

namespace Guardrail.Text

/-! ## Folding -/

/-- Simple case folding where it leads to ASCII. What is not a letter of ASCII folds there only from
`ſ` and the Kelvin sign. -/
def folded (c : Char) : Char :=
  if c = 'ſ' then 's' else if c = '\u212A' then 'k' else c.toLower

/-- A letter or sign of ASCII that is its own lower case. -/
def IsPlain (p : Char) : Prop := p.toNat < 128 ∧ p.toLower = p

instance : DecidablePred IsPlain := fun p =>
  inferInstanceAs (Decidable (p.toNat < 128 ∧ p.toLower = p))

theorem foldsTo_iff {c p : Char} (hp : IsPlain p) : foldsTo c p = true ↔ folded c = p := by
  have hne {d : Char} (hd : 128 ≤ d.toNat) : d ≠ p := by
    rintro rfl
    exact Nat.not_lt.mpr hd hp.1
  rw [foldsTo, hp.2, folded]
  simp only [Bool.or_eq_true, Bool.and_eq_true, beq_iff_eq]
  by_cases hs : c = 'ſ'
  · subst hs
    have hlower : 'ſ'.toLower ≠ p := hne (by decide)
    have hkelvin : 'ſ' ≠ '\u212A' := by decide
    simp only [hlower, hkelvin, true_and, false_and, false_or, or_false, if_true]
    exact eq_comm
  · by_cases hk : c = '\u212A'
    · subst hk
      have hlower : '\u212A'.toLower ≠ p := hne (by decide)
      simp only [hlower, hs, true_and, false_and, false_or, if_true, if_false]
      exact eq_comm
    · simp only [hs, hk, false_and, or_false, if_false]

theorem isBlank_toLower (c : Char) : isBlank c.toLower = isBlank c := by
  by_cases h : c.toNat < 128
  · exact forall_ascii (p := fun c => isBlank c.toLower = isBlank c) (by decide +kernel) h
  · rw [toLower_of_not_ascii (Nat.le_of_not_lt h)]

theorem isBlank_folded (c : Char) : isBlank (folded c) = isBlank c := by
  unfold folded
  split
  · rename_i hc
    subst hc
    decide +kernel
  · split
    · rename_i hc
      subst hc
      decide +kernel
    · exact isBlank_toLower c

/-! ## Lower case -/

/-- The character is no blank and does not fold to ASCII. -/
def IsForeign (c : Char) : Prop := isBlank c = false ∧ 128 ≤ (folded c).toNat

instance : DecidablePred IsForeign := fun c =>
  inferInstanceAs (Decidable (isBlank c = false ∧ 128 ≤ (folded c).toNat))

/-- No shape tells the characters apart. -/
def Alike (c d : Char) : Prop := folded c = folded d ∨ IsForeign c ∧ IsForeign d

theorem IsForeign.foldsTo {c t : Char} (h : IsForeign c) (ht : IsPlain t) :
    foldsTo c t = false := by
  rw [← Bool.not_eq_true, foldsTo_iff ht]
  rintro rfl
  exact Nat.not_lt.mpr h.2 ht.1

theorem Alike.foldsTo {c d t : Char} (h : Alike c d) (ht : IsPlain t) :
    foldsTo c t = foldsTo d t := by
  rcases h with h | ⟨hc, hd⟩
  · rw [Bool.eq_iff_iff, foldsTo_iff ht, foldsTo_iff ht, h]
  · rw [hc.foldsTo ht, hd.foldsTo ht]

theorem Alike.isBlank {c d : Char} (h : Alike c d) : isBlank c = isBlank d := by
  rcases h with h | ⟨hc, hd⟩
  · rw [← isBlank_folded, h, isBlank_folded]
  · rw [hc.1, hd.1]

/-- Code points of characters that are no blanks and stay outside ASCII. -/
structure IsRemote (lo hi : Nat) : Prop where
  ascii : 128 ≤ lo
  valid : hi < 0xD800 ∨ 0xDFFF < lo ∧ hi < 0x110000
  long : hi < 0x17F ∨ 0x17F < lo
  kelvin : hi < 0x212A ∨ 0x212A < lo
  blank : ∀ r ∈ blankRanges, hi < r.1 ∨ r.2 < lo

instance (lo hi : Nat) : Decidable (IsRemote lo hi) := decidable_of_iff
  (128 ≤ lo ∧ (hi < 0xD800 ∨ 0xDFFF < lo ∧ hi < 0x110000) ∧ (hi < 0x17F ∨ 0x17F < lo) ∧
    (hi < 0x212A ∨ 0x212A < lo) ∧ ∀ r ∈ blankRanges, hi < r.1 ∨ r.2 < lo)
  ⟨fun ⟨ha, hv, hl, hk, hb⟩ => ⟨ha, hv, hl, hk, hb⟩,
    fun ⟨ha, hv, hl, hk, hb⟩ => ⟨ha, hv, hl, hk, hb⟩⟩

theorem IsRemote.isForeign {lo hi : Nat} (h : IsRemote lo hi) {c : Char} (hlo : lo ≤ c.toNat)
    (hhi : c.toNat ≤ hi) : IsForeign c := by
  have hascii := h.ascii
  have hlong : c ≠ 'ſ' := by
    rintro rfl
    have := h.long
    have : 'ſ'.toNat = 0x17F := rfl
    omega
  have hkelvin : c ≠ '\u212A' := by
    rintro rfl
    have := h.kelvin
    have : '\u212A'.toNat = 0x212A := rfl
    omega
  have hblank : isBlank c = false := by
    rw [Text.isBlank, inRanges, List.any_eq_false]
    intro r hr
    have := h.blank r hr
    simp only [Bool.and_eq_true, decide_eq_true_eq]
    omega
  refine ⟨hblank, ?_⟩
  rw [folded, if_neg hlong, if_neg hkelvin, toLower_of_not_ascii (by omega)]
  omega

/-- The Kelvin sign apart, the letters of the table and their lower case have nothing to do with
ASCII. -/
theorem remote_lowerRuns : ∀ r ∈ lowerRuns,
    r.first = 0x212A ∧ r.last = 0x212A ∧ r.target 0x212A = 'k'.toNat ∨
      IsRemote r.first r.last ∧ IsRemote (r.target r.first) (r.target r.last) := by
  decide +kernel

theorem exists_run {runs : List CaseRun} {m n : Nat} (h : mapThrough runs m = some n) :
    ∃ r ∈ runs, r.first ≤ m ∧ m ≤ r.last ∧ r.target m = n := by
  obtain ⟨r, hr, rfl⟩ := Option.map_eq_some_iff.mp h
  have hcovers := List.find?_some hr
  simp only [CaseRun.covers, Bool.and_eq_true, decide_eq_true_eq] at hcovers
  exact ⟨r, List.mem_of_find?_eq_some hr, hcovers.1.1, hcovers.1.2, rfl⟩

theorem alike_of_mapThrough {c : Char} {n : Nat} (h : mapThrough lowerRuns c.toNat = some n) :
    Alike c (Char.ofNat n) := by
  obtain ⟨r, hr, hlo, hhi, rfl⟩ := exists_run h
  rcases remote_lowerRuns r hr with ⟨hfirst, hlast, htarget⟩ | ⟨hfrom, hto⟩
  · have hc : c = '\u212A' := Char.toNat_inj.mp (by
      have : '\u212A'.toNat = 0x212A := rfl
      omega)
    subst hc
    rw [show '\u212A'.toNat = 0x212A from rfl, htarget, Char.ofNat_toNat]
    exact .inl (by decide)
  · have htarget : r.target r.first ≤ r.target c.toNat ∧ r.target c.toNat ≤ r.target r.last := by
      unfold CaseRun.target
      omega
    have hvalid : (r.target c.toNat).isValidChar := by
      have := hto.valid
      unfold Nat.isValidChar
      omega
    have htoNat : (Char.ofNat (r.target c.toNat)).toNat = r.target c.toNat := by
      rw [Char.ofNat, dif_pos hvalid]
      rfl
    exact .inr ⟨hfrom.isForeign hlo hhi,
      hto.isForeign (htoNat.symm ▸ htarget.1) (htoNat.symm ▸ htarget.2)⟩

theorem folded_toLower_of_ascii {c : Char} (h : c.toNat < 128) : folded c.toLower = folded c :=
  forall_ascii (p := fun c => folded c.toLower = folded c) (by decide +kernel) h

theorem alike_lowerChar {c : Char} (h : c ≠ 'İ') : ∃ d, lowerChar c = [d] ∧ Alike c d := by
  unfold lowerChar
  split
  · exact ⟨_, rfl, .inl (folded_toLower_of_ascii ‹_›).symm⟩
  · split
    · exact ⟨_, rfl, alike_of_mapThrough ‹_›⟩
    · exact ⟨c, rfl, .inl rfl⟩

/-- The second characters are the first ones in another case, as far as a shape can tell, with two
characters for `İ`. -/
inductive Lowered : List Char → List Char → Prop where
  | nil : Lowered [] []
  | alike {c d : Char} {cs ds : List Char} :
    Alike c d → Lowered cs ds → Lowered (c :: cs) (d :: ds)
  | dotted {cs ds : List Char} : Lowered cs ds → Lowered ('İ' :: cs) ('i' :: '\u0307' :: ds)

theorem lowered_lowerAfter (cs : List Char) : ∀ before, Lowered cs (lowerAfter before cs) := by
  induction cs with
  | nil => exact fun _ => .nil
  | cons c cs ih =>
    intro before
    rw [lowerAfter]
    split
    · rename_i hc
      subst hc
      have hsigma : IsForeign 'Σ' := by decide +kernel
      have hmapped : ∀ final : Bool, IsForeign (if final then 'ς' else 'σ') := by decide +kernel
      exact .alike (.inr ⟨hsigma, hmapped _⟩) (ih _)
    · by_cases hc : c = 'İ'
      · subst hc
        have hdotted : lowerChar 'İ' = ['i', '\u0307'] := by decide +kernel
        rw [hdotted]
        exact .dotted (ih _)
      · obtain ⟨d, hd, halike⟩ := alike_lowerChar hc
        rw [hd]
        exact .alike halike (ih _)

theorem isForeign_dotted : IsForeign 'İ' := by decide +kernel

theorem isForeign_dot : IsForeign '\u0307' := by decide +kernel

theorem isBlank_i : isBlank 'i' = false := by decide +kernel

end Guardrail.Text
