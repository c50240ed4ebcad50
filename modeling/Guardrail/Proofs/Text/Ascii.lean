import Guardrail.Proofs.Text.WordEnd

/-! # ASCII words

Lower case is simple in ASCII: it goes character by character, and it is the same wherever a word
stands. So a text mentions every ASCII word that it has in some case. -/

namespace Guardrail.Text

/-- The characters are ASCII. -/
def IsAscii (cs : List Char) : Prop := ∀ c ∈ cs, c.toNat < 128

instance : DecidablePred IsAscii := fun cs =>
  decidable_of_iff (cs.all (·.toNat < 128) = true) (by simp [IsAscii])

theorem toLower_of_not_ascii {c : Char} (h : 128 ≤ c.toNat) : c.toLower = c := by
  refine dif_neg ?_
  rintro ⟨-, hz⟩
  have : c.toNat ≤ 90 := hz
  omega

/-- What holds of the ASCII characters one by one. -/
theorem forall_ascii {p : Char → Prop} (h : ∀ n < 128, p (Char.ofNat n)) {c : Char}
    (hc : c.toNat < 128) : p c := by
  have := h c.toNat hc
  rwa [Char.ofNat_toNat] at this

theorem toNat_toLower_lt {c : Char} : c.toLower.toNat < 128 ↔ c.toNat < 128 := by
  by_cases h : c.toNat < 128
  · exact iff_of_true (forall_ascii (p := (·.toLower.toNat < 128)) (by decide +kernel) h) h
  · rw [toLower_of_not_ascii (Nat.le_of_not_lt h)]

theorem isAscii_map_toLower {cs : List Char} : IsAscii (cs.map Char.toLower) ↔ IsAscii cs := by
  simp [IsAscii, toNat_toLower_lt]

theorem IsAscii.sigma_not_mem {cs : List Char} (h : IsAscii cs) : 'Σ' ∉ cs := by
  intro hm
  have := h _ hm
  revert this
  decide

theorem hasOpenSigma_eq_false {cs : List Char} (h : 'Σ' ∉ cs) :
    ∀ before, hasOpenSigma before cs = false := by
  induction cs with
  | nil => exact fun _ => rfl
  | cons c rest ih =>
    obtain ⟨hc, hrest⟩ := not_or.mp fun hm => h (List.mem_cons.mpr hm)
    intro before
    simp [hasOpenSigma, Ne.symm hc, ih hrest]

theorem lowerAfter_eq_flatMap {cs : List Char} (h : 'Σ' ∉ cs) :
    ∀ before, lowerAfter before cs = cs.flatMap lowerChar := by
  induction cs with
  | nil => exact fun _ => rfl
  | cons c rest ih =>
    obtain ⟨hc, hrest⟩ := not_or.mp fun hm => h (List.mem_cons.mpr hm)
    intro before
    rw [lowerAfter, ih hrest, if_neg (Ne.symm hc), List.flatMap_cons]

theorem IsAscii.flatMap_lowerChar {cs : List Char} (h : IsAscii cs) :
    cs.flatMap lowerChar = cs.map Char.toLower := by
  induction cs with
  | nil => rfl
  | cons c rest ih =>
    obtain ⟨hc, hrest⟩ := List.forall_mem_cons.mp h
    rw [List.flatMap_cons, ih hrest, lowerChar, if_pos hc]
    rfl

theorem IsAscii.lowerAfter {cs : List Char} (h : IsAscii cs) (before : List Char) :
    lowerAfter before cs = cs.map Char.toLower := by
  rw [lowerAfter_eq_flatMap h.sigma_not_mem, h.flatMap_lowerChar]

/-- An ASCII word is mentioned by every text that has it in some case. -/
theorem mentions_of_ascii {text word : String} (h : IsAscii word.toList)
    (hin : word.toList.map Char.toLower <:+: text.toList.map Char.toLower) :
    mentions text word = true := by
  obtain ⟨part, hpart, he⟩ := List.infix_map_iff.mp hin
  have hascii : IsAscii part := isAscii_map_toLower.mp (he ▸ isAscii_map_toLower.mpr h)
  rw [mentions_iff, h.lowerAfter, he, ← hascii.lowerAfter []]
  exact lowerAfter_isInfix (hasOpenSigma_eq_false hascii.sigma_not_mem []) hpart

end Guardrail.Text
