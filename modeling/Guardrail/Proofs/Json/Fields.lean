import Guardrail.Json
import Mathlib.Data.List.Induction
import Mathlib.Data.String.Basic

/-! # Fields in the order of their keys

Sorted fields stand in increasing order (`pairwise_sortFields`), and under each key stands the last
value that it was given (`lookup_sortFields`). -/

namespace Guardrail.Json

variable {α β : Type}

theorem pairwise_insertField (k : String) (v : α) {fields : List (String × α)}
    (h : fields.Pairwise (·.1 < ·.1)) : (insertField k v fields).Pairwise (·.1 < ·.1) := by
  induction fields with
  | nil => exact List.pairwise_singleton _ _
  | cons first rest ih =>
    obtain ⟨k', v'⟩ := first
    obtain ⟨hfirst, hrest⟩ := List.pairwise_cons.mp h
    rw [insertField]
    split
    · rename_i heq
      subst heq
      exact List.pairwise_cons.mpr ⟨hfirst, hrest⟩
    · rename_i hne
      split
      · rename_i hlt
        refine List.pairwise_cons.mpr ⟨fun e he => ?_, h⟩
        rcases List.mem_cons.mp he with rfl | he
        · exact hlt
        · exact lt_trans hlt (hfirst e he)
      · rename_i hge
        have hlt : k' < k := lt_of_le_of_ne (le_of_not_gt hge) (Ne.symm hne)
        refine List.pairwise_cons.mpr ⟨fun e he => ?_, ih hrest⟩
        rcases eq_or_mem_of_mem_insertField he with rfl | he
        · exact hlt
        · exact hfirst e he

theorem mem_insertField {k : String} {v : α} {fields : List (String × α)}
    (h : fields.Pairwise (·.1 < ·.1)) (e : String × α) :
    e ∈ insertField k v fields ↔ e = (k, v) ∨ e.1 ≠ k ∧ e ∈ fields := by
  induction fields with
  | nil => simp [insertField]
  | cons first rest ih =>
    obtain ⟨k', v'⟩ := first
    obtain ⟨hfirst, hrest⟩ := List.pairwise_cons.mp h
    have hlater {key : String} (hle : key ≤ k') (he : e ∈ rest) : e.1 ≠ key :=
      (lt_of_le_of_lt hle (hfirst e he)).ne'
    rw [insertField]
    split
    · rename_i heq
      subst heq
      constructor
      · intro he
        exact (List.mem_cons.mp he).imp_right fun he =>
          ⟨hlater le_rfl he, List.mem_cons_of_mem _ he⟩
      · rintro (rfl | ⟨hne, he⟩)
        · exact List.mem_cons_self ..
        · rcases List.mem_cons.mp he with rfl | he
          · exact absurd rfl hne
          · exact List.mem_cons_of_mem _ he
    · rename_i hne
      split
      · rename_i hlt
        have hother (he : e ∈ (k', v') :: rest) : e.1 ≠ k := by
          rcases List.mem_cons.mp he with rfl | he
          · exact Ne.symm hne
          · exact hlater hlt.le he
        rw [List.mem_cons]
        exact or_congr_right ⟨fun he => ⟨hother he, he⟩, fun he => he.2⟩
      · have hkey : e = (k', v') → e.1 ≠ k := by
          rintro rfl
          exact Ne.symm hne
        rw [List.mem_cons, ih hrest, List.mem_cons]
        tauto

theorem sortFields_append (fields : List (String × α)) (k : String) (v : α) :
    sortFields (fields ++ [(k, v)]) = insertField k v (sortFields fields) := by
  rw [sortFields, List.foldl_append]
  rfl

theorem pairwise_sortFields (fields : List (String × α)) :
    (sortFields fields).Pairwise (·.1 < ·.1) := by
  induction fields using List.reverseRecOn with
  | nil => exact List.Pairwise.nil
  | append_singleton fields e ih =>
    rw [sortFields_append]
    exact pairwise_insertField e.1 e.2 ih

/-- Where a key has one value, sorting loses nothing. -/
theorem mem_sortFields {fields : List (String × α)}
    (h : ∀ k v v', (k, v) ∈ fields → (k, v') ∈ fields → v = v') (e : String × α) :
    e ∈ sortFields fields ↔ e ∈ fields := by
  induction fields using List.reverseRecOn with
  | nil => exact Iff.rfl
  | append_singleton fields last ih =>
    have hrest := ih fun k v v' hv hv' =>
      h k v v' (List.mem_append_left _ hv) (List.mem_append_left _ hv')
    have hsame (he : e ∈ fields) (hk : e.1 = last.1) : e = last :=
      Prod.ext hk (h last.1 e.2 last.2 (hk ▸ List.mem_append_left _ he)
        (List.mem_append_right _ (List.mem_singleton.mpr rfl)))
    rw [sortFields_append, mem_insertField (pairwise_sortFields fields), hrest, List.mem_append,
      List.mem_singleton]
    tauto

/-- Fields in order are told by what they hold. -/
theorem eq_of_pairwise_of_mem_iff {fields fields' : List (String × α)}
    (h : fields.Pairwise (·.1 < ·.1)) (h' : fields'.Pairwise (·.1 < ·.1))
    (hmem : ∀ e, e ∈ fields ↔ e ∈ fields') : fields = fields' := by
  have hnodup {l : List (String × α)} (hl : l.Pairwise (·.1 < ·.1)) : l.Nodup :=
    hl.imp fun {a b} (hab : a.1 < b.1) => ne_of_apply_ne Prod.fst hab.ne
  have hperm : fields.Perm fields' :=
    (List.perm_ext_iff_of_nodup (hnodup h) (hnodup h')).mpr hmem
  exact hperm.eq_of_pairwise (fun a b _ _ hab hba => absurd hab (lt_asymm hba)) h h'

theorem lookup_cons_ite (key k : String) (v : α) (fields : List (String × α)) :
    ((k, v) :: fields).lookup key = if key = k then some v else fields.lookup key := by
  rw [List.lookup_cons]
  by_cases h : key = k
  · simp [h]
  · simp [beq_eq_false_iff_ne.mpr h, h]

theorem lookup_insertField (key k : String) (v : α) (fields : List (String × α)) :
    (insertField k v fields).lookup key = if key = k then some v else fields.lookup key := by
  induction fields with
  | nil => exact lookup_cons_ite key k v []
  | cons first rest ih =>
    obtain ⟨k', v'⟩ := first
    rw [insertField]
    split
    · rename_i heq
      subst heq
      rw [lookup_cons_ite, lookup_cons_ite]
      split <;> rfl
    · rename_i hne
      split
      · exact lookup_cons_ite key k v _
      · rw [lookup_cons_ite, ih, lookup_cons_ite]
        by_cases h : key = k'
        · rw [if_pos h, if_pos h, if_neg (h ▸ Ne.symm hne)]
        · rw [if_neg h, if_neg h]

theorem lookup_sortFields (fields : List (String × α)) (key : String) :
    (sortFields fields).lookup key = fields.reverse.lookup key := by
  induction fields using List.reverseRecOn with
  | nil => rfl
  | append_singleton fields e ih =>
    rw [sortFields_append, lookup_insertField, ih, List.reverse_concat, lookup_cons_ite]

theorem lookup_map_snd (f : α → β) (fields : List (String × α)) (key : String) :
    (fields.map fun e => (e.1, f e.2)).lookup key = (fields.lookup key).map f := by
  induction fields with
  | nil => rfl
  | cons first rest ih =>
    rw [List.map_cons, lookup_cons_ite, lookup_cons_ite, ih]
    split <;> rfl

end Guardrail.Json
