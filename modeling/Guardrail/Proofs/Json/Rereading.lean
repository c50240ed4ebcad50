import Guardrail.Json.Record
import Guardrail.Proofs.Json.Fields
import Guardrail.Proofs.Json.Written
import Mathlib.Data.List.Nodup
import Mathlib.Data.List.Perm.Basic

/-! # Reading what has been written

Numbers with a point are not always read back as they were, so that they are is asked of each of
them (`Exact`). A free-form value that was read is then read again from either of its texts,
whatever the order of the fields in it (`toJson?_tree`). -/

namespace Guardrail.Json

/-! ## Doubles of a value -/

mutual

/-- The doubles of a value at any depth. -/
def floats : Json → List Double
  | float d => [d]
  | array items => itemFloats items
  | object fields => fieldFloats fields
  | _ => []

def itemFloats : List Json → List Double
  | [] => []
  | v :: rest => floats v ++ itemFloats rest

def fieldFloats : List (String × Json) → List Double
  | [] => []
  | (_, v) :: rest => floats v ++ fieldFloats rest

end

/-- The text of the double is read as the double. -/
def ReadsBack (d : Double) : Prop := parse d.render = some (.float d)

/-- The doubles of the value are read back. -/
def Exact (v : Json) : Prop := ∀ d ∈ v.floats, ReadsBack d

def isFloat (d : Double) : Json → Bool
  | float d' => d' = d
  | _ => false

theorem readsBack_iff (d : Double) : ReadsBack d ↔ (parse d.render).any (isFloat d) = true := by
  rw [ReadsBack, Option.any_eq_true]
  constructor
  · exact fun h => ⟨_, h, decide_eq_true rfl⟩
  · rintro ⟨v, hv, hfloat⟩
    cases v with
    | float d' => rw [hv, of_decide_eq_true hfloat]
    | null | bool | integer | string | array | object => cases hfloat

instance : DecidablePred ReadsBack := fun d => decidable_of_iff _ (readsBack_iff d).symm

instance : DecidablePred Exact := fun v =>
  inferInstanceAs (Decidable (∀ d ∈ v.floats, ReadsBack d))

theorem exact_array {items : List Json} : (array items).Exact ↔ ∀ v ∈ items, v.Exact := by
  induction items with
  | nil => simp [Exact, floats, itemFloats]
  | cons v rest ih =>
    rw [List.forall_mem_cons, ← ih]
    exact List.forall_mem_append

theorem exact_object {fields : List (String × Json)} :
    (object fields).Exact ↔ ∀ e ∈ fields, e.2.Exact := by
  induction fields with
  | nil => simp [Exact, floats, fieldFloats]
  | cons e rest ih =>
    rw [List.forall_mem_cons, ← ih]
    exact List.forall_mem_append

theorem ReadsBack.exists_numeral {d : Double} (h : ReadsBack d) :
    ∃ n : Numeral, tree (float d) = .numeral n ∧ n.toJson? = some (.float d) := by
  obtain ⟨t, ht, hvalue⟩ := Option.bind_eq_some_iff.mp h
  rw [tree, ht, Option.getD_some]
  cases t with
  | numeral n => exact ⟨n, rfl, hvalue⟩
  | null | bool => simp [Tree.toJson?] at hvalue
  | string => simp [Tree.toJson?] at hvalue
  | array => simp [Tree.toJson?] at hvalue
  | object => simp [Tree.toJson?] at hvalue

/-! ## Orders of the fields -/

/-- The same value with the fields of its objects in some order, at any depth. -/
inductive Reordered : Json → Json → Prop
  | refl (v : Json) : Reordered v v
  | array {items items' : List Json} (h : List.Forall₂ Reordered items items') :
    Reordered (.array items) (.array items')
  | object {fields moved fields' : List (String × Json)} (hperm : fields.Perm moved)
    (hkeys : moved.map (·.1) = fields'.map (·.1))
    (hvalues : List.Forall₂ Reordered (moved.map (·.2)) (fields'.map (·.2))) :
    Reordered (.object fields) (.object fields')

/-- The same name and a value that may be reordered. -/
def Aligned (e e' : String × Json) : Prop := e.1 = e'.1 ∧ e.2.Reordered e'.2

theorem Reordered.exists_items {items : List Json} {w : Json} (h : (Json.array items).Reordered w) :
    ∃ items', w = .array items' ∧ List.Forall₂ Reordered items items' := by
  cases h with
  | refl => exact ⟨items, rfl, List.forall₂_same.mpr fun v _ => .refl v⟩
  | array h => exact ⟨_, rfl, h⟩

theorem forall₂_aligned {fields : List (String × Json)} : ∀ {fields' : List (String × Json)},
    fields.map (·.1) = fields'.map (·.1) →
      List.Forall₂ Reordered (fields.map (·.2)) (fields'.map (·.2)) →
        List.Forall₂ Aligned fields fields' := by
  induction fields with
  | nil =>
    intro fields' hkeys _
    rw [List.map_eq_nil_iff.mp hkeys.symm]
    exact .nil
  | cons e rest ih =>
    intro fields' hkeys hvalues
    cases fields' with
    | nil => cases hkeys
    | cons e' rest' =>
      obtain ⟨hkey, hkeys⟩ := List.cons.inj hkeys
      obtain ⟨hvalue, hvalues⟩ := List.forall₂_cons.mp hvalues
      exact .cons ⟨hkey, hvalue⟩ (ih hkeys hvalues)

theorem Reordered.exists_fields {fields : List (String × Json)} {w : Json}
    (h : (Json.object fields).Reordered w) :
    ∃ moved fields', w = .object fields' ∧ fields.Perm moved ∧
      List.Forall₂ Aligned moved fields' := by
  cases h with
  | refl => exact ⟨fields, fields, rfl, .refl _, List.forall₂_same.mpr fun e _ => ⟨rfl, .refl e.2⟩⟩
  | object hperm hkeys hvalues => exact ⟨_, _, rfl, hperm, forall₂_aligned hkeys hvalues⟩

/-! ## Free-form values -/

/-- Values that can be read at the depth, as far as their doubles are read back. -/
inductive Readable : Nat → Json → Prop
  | null {depth : Nat} : Readable depth .null
  | bool {depth : Nat} (b : Bool) : Readable depth (.bool b)
  | integer {depth : Nat} {i : Int} (h : Spelling.InWord i) : Readable depth (.integer i)
  | float {depth : Nat} (d : Double) : Readable depth (.float d)
  | string {depth : Nat} (s : String) : Readable depth (.string s)
  | array {depth : Nat} {items : List Json} (hdepth : depth < Tree.maxDepth)
    (hitems : ∀ v ∈ items, Readable (depth + 1) v) : Readable depth (.array items)
  | object {depth : Nat} {fields : List (String × Json)} (hdepth : depth < Tree.maxDepth)
    (hsorted : fields.Pairwise (·.1 < ·.1)) (hfields : ∀ e ∈ fields, Readable (depth + 1) e.2) :
    Readable depth (.object fields)

theorem inWord_of_toInteger? {n : Numeral} {i : Int} (h : n.toInteger? = some i) :
    Spelling.InWord i := by
  have hhalf : (twoTo 63 : Int) < Numeral.wordLimit := by decide
  simp only [Numeral.toInteger?, Bool.and_eq_true, decide_eq_true_eq] at h
  split_ifs at h with _ _ hword hword
  · obtain rfl := Option.some.inj h
    exact ⟨by omega, by omega⟩
  · obtain rfl := Option.some.inj h
    exact ⟨by omega, by omega⟩

theorem mem_of_mem_sortFields {α : Type} {fields : List (String × α)} {e : String × α}
    (h : e ∈ sortFields fields) : e ∈ fields := by
  induction fields using List.reverseRecOn with
  | nil => exact h
  | append_singleton fields last ih =>
    rw [sortFields_append] at h
    rcases eq_or_mem_of_mem_insertField h with rfl | h
    · exact List.mem_append_right _ List.mem_cons_self
    · exact List.mem_append_left _ (ih h)

mutual

theorem readable_of_toJson? {depth : Nat} : ∀ {t : Tree} {v : Json}, t.toJson? depth = some v →
    Readable depth v
  | .null, _, h => by
    cases h
    exact .null
  | .bool b, _, h => by
    cases h
    exact .bool b
  | .numeral n, _, h => by
    rw [Tree.toJson?, Numeral.toJson?] at h
    split at h
    · rename_i hinteger
      cases h
      exact .integer (inWord_of_toInteger? hinteger)
    · obtain ⟨d, -, rfl⟩ := Option.map_eq_some_iff.mp h
      exact .float d
  | .string s, _, h => by
    obtain ⟨text, -, rfl⟩ := Option.map_eq_some_iff.mp h
    exact .string text
  | .array items, _, h => by
    rw [Tree.toJson?] at h
    split at h
    · rename_i hdepth
      obtain ⟨vs, hvs, rfl⟩ := Option.map_eq_some_iff.mp h
      exact .array hdepth (readable_of_itemsToJson? hvs)
    · cases h
  | .object fields, _, h => by
    rw [Tree.toJson?] at h
    split at h
    · rename_i hdepth
      obtain ⟨fs, hfs, rfl⟩ := Option.map_eq_some_iff.mp h
      exact .object hdepth (pairwise_sortFields fs) fun e he =>
        readable_of_fieldsToJson? hfs e (mem_of_mem_sortFields he)
    · cases h

theorem readable_of_itemsToJson? {depth : Nat} : ∀ {ts : List Tree} {vs : List Json},
    Tree.itemsToJson? depth ts = some vs → ∀ v ∈ vs, Readable depth v
  | [], _, h => by
    cases h
    exact List.forall_mem_nil _
  | t :: ts, _, h => by
    simp only [Tree.itemsToJson?, Option.bind_eq_bind, Option.bind_eq_some_iff,
      Option.some.injEq] at h
    obtain ⟨v, hv, vs, hvs, rfl⟩ := h
    exact List.forall_mem_cons.mpr ⟨readable_of_toJson? hv, readable_of_itemsToJson? hvs⟩

theorem readable_of_fieldsToJson? {depth : Nat} :
    ∀ {ts : List (Option String × Tree)} {fs : List (String × Json)},
      Tree.fieldsToJson? depth ts = some fs → ∀ e ∈ fs, Readable depth e.2
  | [], _, h => by
    cases h
    exact List.forall_mem_nil _
  | (k, t) :: ts, _, h => by
    simp only [Tree.fieldsToJson?, Option.bind_eq_bind, Option.bind_eq_some_iff,
      Option.some.injEq] at h
    obtain ⟨_, -, v, hv, fs, hfs, rfl⟩ := h
    exact List.forall_mem_cons.mpr ⟨readable_of_toJson? hv, readable_of_fieldsToJson? hfs⟩

end

/-! Reading item by item and field by field. -/

theorem mapM_eq_some_iff_forall₂ {α β : Type} {f : α → Option β} {as : List α} :
    ∀ {bs : List β}, as.mapM f = some bs ↔ List.Forall₂ (fun a b => f a = some b) as bs := by
  induction as with
  | nil => simp [eq_comm]
  | cons a as ih =>
    intro bs
    rw [List.mapM_cons]
    simp only [Option.bind_eq_bind, Option.bind_eq_some_iff, Option.pure_def, Option.some.injEq, ih,
      List.forall₂_cons_left_iff]
    constructor
    · rintro ⟨b, hb, bs, hbs, rfl⟩
      exact ⟨b, bs, hb, hbs, rfl⟩
    · rintro ⟨b, bs, hb, hbs, rfl⟩
      exact ⟨b, hb, bs, hbs, rfl⟩

theorem exists_of_mem_forall₂ {α β : Type} {R : α → β → Prop} {as : List α} {bs : List β} {b : β}
    (h : List.Forall₂ R as bs) (hb : b ∈ bs) : ∃ a ∈ as, R a b := by
  induction h with
  | nil => cases hb
  | @cons a _ as _ hfirst _ ih =>
    rcases List.mem_cons.mp hb with rfl | hb
    · exact ⟨a, List.mem_cons_self, hfirst⟩
    · obtain ⟨a, ha, hread⟩ := ih hb
      exact ⟨a, List.mem_cons_of_mem _ ha, hread⟩

theorem exists_of_mem_mapM {α β : Type} {f : α → Option β} {as : List α} {bs : List β} {b : β}
    (h : as.mapM f = some bs) (hb : b ∈ bs) : ∃ a ∈ as, f a = some b :=
  exists_of_mem_forall₂ (R := fun a b => f a = some b) (mapM_eq_some_iff_forall₂.mp h) hb

theorem itemsToJson?_eq_mapM (depth : Nat) (ts : List Tree) :
    Tree.itemsToJson? depth ts = ts.mapM (Tree.toJson? depth) := by
  induction ts with
  | nil => rfl
  | cons t ts ih =>
    rw [Tree.itemsToJson?, ih, List.mapM_cons]
    rfl

theorem fieldsToJson?_eq_mapM (depth : Nat) (ts : List (Option String × Tree)) :
    Tree.fieldsToJson? depth ts =
      ts.mapM fun f => f.1.bind fun k => (f.2.toJson? depth).bind fun v => some (k, v) := by
  induction ts with
  | nil => rfl
  | cons f ts ih =>
    rw [Tree.fieldsToJson?, ih, List.mapM_cons]
    cases f.1 <;> cases f.2.toJson? depth <;> rfl

theorem sortFields_of_perm {α : Type} {fields moved : List (String × α)}
    (hsorted : fields.Pairwise (·.1 < ·.1)) (h : moved.Perm fields) :
    sortFields moved = fields := by
  have hkeys : (moved.map (·.1)).Nodup := by
    refine ((h.map _).nodup_iff).mpr (List.pairwise_map.mpr ?_)
    exact hsorted.imp fun hlt => hlt.ne
  have hsame : ∀ k v v', (k, v) ∈ moved → (k, v') ∈ moved → v = v' := fun k v v' hv hv' =>
    congrArg Prod.snd (List.inj_on_of_nodup_map hkeys hv hv' rfl)
  refine eq_of_pairwise_of_mem_iff (pairwise_sortFields moved) hsorted fun e => ?_
  rw [mem_sortFields hsame, h.mem_iff]

section Items

variable {α : Type} {write : α → Json} {read : Tree → Option α}

/-- If every item is read again then so is their list. -/
theorem mapM_itemTrees {as : List α} {items : List Json}
    (h : List.Forall₂ Reordered (as.map write) items)
    (hread : ∀ a ∈ as, ∀ w, (write a).Reordered w → read w.tree = some a) :
    (itemTrees items).mapM read = some as := by
  rw [itemTrees_eq_map, mapM_eq_some_iff_forall₂, List.forall₂_map_left_iff]
  have hboth := (List.forall₂_and_left as items).mpr ⟨hread, List.forall₂_map_left_iff.mp h⟩
  exact (hboth.imp fun a w hw => hw.1 w hw.2).flip

/-- If every value is read again then so are the fields, in the order in which they stand. -/
theorem exists_mapM_fieldTrees {entries : List (String × α)} {w : Json}
    (h : (Json.object (entries.map fun e => (e.1, write e.2))).Reordered w)
    (hread : ∀ e ∈ entries, ∀ w, (write e.2).Reordered w → read w.tree = some e.2) :
    ∃ fields moved, w = .object fields ∧ moved.Perm entries ∧
      (fieldTrees fields).mapM (fun f => f.1.bind fun k => (read f.2).bind fun a => some (k, a)) =
        some moved := by
  obtain ⟨_, fields, rfl, hmap, hmoved⟩ := h.exists_fields
  obtain ⟨moved, rfl, hperm⟩ : ∃ moved : List (String × α), _ = moved.map _ ∧ moved.Perm entries :=
    cast (congrFun₂ (List.eq_map_comp_perm fun e : String × α => (e.1, write e.2)) _ entries).symm
      hmap.symm
  refine ⟨fields, moved, rfl, hperm, ?_⟩
  rw [fieldTrees_eq_map, mapM_eq_some_iff_forall₂, List.forall₂_map_left_iff]
  have hboth := (List.forall₂_and_left moved fields).mpr
    ⟨fun e he => hread e (hperm.mem_iff.mp he), List.forall₂_map_left_iff.mp hmoved⟩
  refine (hboth.imp fun e f hf => ?_).flip
  obtain ⟨hvalue, hkey, hreordered⟩ := hf
  show (some f.1).bind _ = some e
  rw [Option.bind_some, hvalue _ hreordered, ← hkey]
  rfl

end Items

/-- A free-form value is read again from its tree, whatever the order of the fields in it. -/
theorem toJson?_tree {depth : Nat} {v : Json} (h : Readable depth v) : v.Exact →
    ∀ {w : Json}, v.Reordered w → w.tree.toJson? depth = some v := by
  induction h with
  | null | bool | string =>
    rintro - w ⟨⟩
    rfl
  | integer hword =>
    rintro - w ⟨⟩
    rw [tree, Tree.toJson?, Numeral.toJson?, Spelling.toInteger?_ofInt hword]
  | float d =>
    rintro hexact w ⟨⟩
    obtain ⟨n, htree, hvalue⟩ := (hexact d List.mem_cons_self).exists_numeral
    rw [htree, Tree.toJson?, hvalue]
  | @array depth items hdepth hitems ih =>
    intro hexact w hw
    obtain ⟨items', rfl, hitems'⟩ := hw.exists_items
    rw [← List.map_id items] at hitems'
    rw [tree, Tree.toJson?, if_pos hdepth, itemsToJson?_eq_mapM, mapM_itemTrees hitems'
      fun v hv w => ih v hv (exact_array.mp hexact v hv)]
    rfl
  | @object depth fields hdepth hsorted hfields ih =>
    intro hexact w hw
    have hread (e : String × Json) (he : e ∈ fields) (w : Json) (hw : e.2.Reordered w) :
        w.tree.toJson? (depth + 1) = some e.2 :=
      ih e he (exact_object.mp hexact e he) hw
    have hid : fields.map (fun e => (e.1, id e.2)) = fields := List.map_id fields
    rw [← hid] at hw
    obtain ⟨fields', moved, rfl, hperm, hmoved⟩ := exists_mapM_fieldTrees hw hread
    rw [tree, Tree.toJson?, if_pos hdepth, fieldsToJson?_eq_mapM, hmoved, Option.map_some,
      sortFields_of_perm hsorted hperm]

end Guardrail.Json
