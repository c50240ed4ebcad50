import Guardrail.Proofs.Json.Rereading

/-! # Readers that lose nothing

A reader and the way its values are written are `Lossless` if whatever was read is read again from
what is written for it. Lists, maps and optional places keep this of what they hold. A record has it
if every field that is left out had the value that stands for its absence: then each field of what
has been written `Stands` for its value. -/

namespace Guardrail.Json

variable {α : Type} {r : Reader α} {write : α → Json} {depth : Nat} {a : α}

/-- The value is read from what is written for it, whatever the order of the fields in that. -/
def Rereads (r : Reader α) (write : α → Json) (depth : Nat) (a : α) : Prop :=
  (write a).Exact → ∀ w, (write a).Reordered w → r depth w.tree = some a

def Lossless (r : Reader α) (write : α → Json) : Prop :=
  ∀ depth t a, r depth t = some a → Rereads r write depth a

/-! ## Plain values -/

theorem rereads_bool (depth : Nat) (b : Bool) : Rereads Reader.bool .bool depth b := by
  rintro - w ⟨⟩
  rfl

theorem rereads_string (depth : Nat) (s : String) : Rereads Reader.string .string depth s := by
  rintro - w ⟨⟩
  rfl

/-- What is written as a string is read again if the string is. -/
theorem rereads_of_string {text : α → String} (h : r depth (.string (some (text a))) = some a) :
    Rereads r (fun a => .string (text a)) depth a := by
  rw [Rereads]
  generalize text a = s at h
  rintro - w ⟨⟩
  exact h

theorem lossless_string : Lossless Reader.string .string := fun depth _ s _ =>
  rereads_string depth s

theorem rereads_double (depth : Nat) (d : Double) : Rereads Reader.double .float depth d := by
  rintro hexact w ⟨⟩
  obtain ⟨n, htree, hvalue⟩ := (hexact d List.mem_cons_self).exists_numeral
  rw [htree, Reader.double]
  cases hinteger : n.toInteger? with
  | some i =>
    rw [Numeral.toJson?, hinteger] at hvalue
    cases hvalue
  | none =>
    rw [Numeral.toJson?, hinteger] at hvalue
    obtain ⟨d', hd, hsame⟩ := Option.map_eq_some_iff.mp hvalue
    cases hsame
    exact hd

theorem rereads_natBelow {limit n : Nat} (h : n < limit) (hlimit : limit ≤ twoTo 64) :
    Rereads (Reader.natBelow limit) (fun n => .integer n) depth n := by
  rintro - w ⟨⟩
  have hword : Spelling.InWord n := by
    have : n < Numeral.wordLimit := Nat.lt_of_lt_of_le h hlimit
    exact ⟨by omega, by omega⟩
  rw [tree, Reader.natBelow, Spelling.toInteger?_ofInt hword]
  exact if_pos h

theorem lt_of_natBelow {limit n : Nat} {t : Tree} (h : Reader.natBelow limit depth t = some n) :
    n < limit := by
  simp only [Reader.natBelow] at h
  split at h
  · split at h
    · split_ifs at h with hlt
      exact Option.some.inj h ▸ hlt
    · cases h
  · cases h

theorem lossless_natBelow {limit : Nat} (hlimit : limit ≤ twoTo 64) :
    Lossless (Reader.natBelow limit) (fun n => .integer n) := fun _ _ _ h =>
  rereads_natBelow (lt_of_natBelow h) hlimit

theorem lossless_word : Lossless Reader.word (fun n => .integer n) := lossless_natBelow le_rfl

theorem rereads_word {n : Nat} (h : n < twoTo 64) (depth : Nat) :
    Rereads Reader.word (fun n => .integer n) depth n :=
  rereads_natBelow h le_rfl

theorem rereads_value {v : Json} (h : Readable depth v) : Rereads Reader.value id depth v :=
  fun hexact _ hw => toJson?_tree h hexact hw

theorem lossless_value : Lossless Reader.value id := fun _ _ _ h =>
  rereads_value (readable_of_toJson? h)

/-- A label is read from itself. -/
theorem rereads_label {labels : List (String × α)} {label : α → String}
    (h : labels.lookup (label a) = some a) :
    Rereads (Reader.label labels) (fun a => .string (label a)) depth a :=
  rereads_of_string h

/-! ## Lists, maps and optional places -/

theorem rereads_list {as : List α} (h : ∀ a ∈ as, Rereads r write (depth + 1) a) :
    Rereads (.list r) (fun as => .array (as.map write)) depth as := by
  intro hexact w hw
  obtain ⟨items, rfl, hitems⟩ := hw.exists_items
  exact mapM_itemTrees hitems fun a ha =>
    h a ha (exact_array.mp hexact _ (List.mem_map_of_mem ha))

theorem rereads_strings (depth : Nat) (as : List String) :
    Rereads (.list .string) strings depth as :=
  rereads_list fun s _ => rereads_string _ s

theorem lossless_list (h : Lossless r write) :
    Lossless (.list r) (fun as => .array (as.map write)) := by
  intro depth t as hread
  refine rereads_list fun a ha => ?_
  cases t with
  | array items =>
    obtain ⟨item, -, hitem⟩ := exists_of_mem_mapM hread ha
    exact h _ _ _ hitem
  | null | bool | numeral | string | object => cases hread

theorem rereads_map {m : List (String × α)} (hsorted : m.Pairwise (·.1 < ·.1))
    (h : ∀ e ∈ m, Rereads r write (depth + 1) e.2) :
    Rereads (.map r) (fun m => .object (m.map fun e => (e.1, write e.2))) depth m := by
  intro hexact w hw
  obtain ⟨fields, moved, rfl, hperm, hmoved⟩ := exists_mapM_fieldTrees hw fun e he =>
    h e he (exact_object.mp hexact _ (List.mem_map_of_mem he))
  exact (congrArg (Option.map sortFields) hmoved).trans
    (congrArg some (sortFields_of_perm hsorted hperm))

theorem lossless_map (h : Lossless r write) :
    Lossless (.map r) (fun m => .object (m.map fun e => (e.1, write e.2))) := by
  intro depth t m hread
  cases t with
  | object fields =>
    obtain ⟨es, hes, rfl⟩ := Option.map_eq_some_iff.mp hread
    refine rereads_map (pairwise_sortFields es) fun e he => ?_
    obtain ⟨f, -, hf⟩ := exists_of_mem_mapM hes (mem_of_mem_sortFields he)
    simp only [Option.bind_eq_bind, Option.bind_eq_some_iff, Option.some.injEq] at hf
    obtain ⟨k, -, a, ha, rfl⟩ := hf
    exact h _ _ _ ha
  | null | bool | numeral | string | array => cases hread

theorem pairwise_of_map {t : Tree} {m : List (String × α)} (h : Reader.map r depth t = some m) :
    m.Pairwise (·.1 < ·.1) := by
  cases t with
  | object fields =>
    obtain ⟨es, -, rfl⟩ := Option.map_eq_some_iff.mp h
    exact pairwise_sortFields es
  | null | bool | numeral | string | array => cases h

theorem Rereads.congr {write' : α → Json} (h : Rereads r write depth a)
    (hwrite : write' a = write a) : Rereads r write' depth a := by
  rw [Rereads, hwrite]
  exact h

theorem lossless_stringMap : Lossless (.map .string) stringMap := by
  intro depth t m hread
  refine (lossless_map lossless_string depth t m hread).congr ?_
  rw [stringMap, sortFields_of_perm (pairwise_of_map hread) (.refl m)]

theorem rereads_noEntries (depth : Nat) : Rereads (.map .string) stringMap depth [] :=
  lossless_stringMap depth (.object []) [] rfl

theorem option_of_ne_null {t : Tree} (h : t ≠ .null) :
    Reader.option r depth t = (r depth t).map some := by
  cases t with
  | null => exact absurd rfl h
  | bool | numeral | string | array | object => rfl

/-- What is read as a value that `null` does not stand for is not `null`. -/
theorem rereads_some {writeOption : Option α → Json} (hwrite : writeOption (some a) = write a)
    (hnull : r depth .null ≠ some a) (h : Rereads r write depth a) :
    Rereads (.option r) writeOption depth (some a) := by
  rw [Rereads, hwrite]
  intro hexact w hw
  have hread := h hexact w hw
  have hne : w.tree ≠ .null := fun he => hnull (he ▸ hread)
  rw [option_of_ne_null hne, hread, Option.map_some]

theorem rereads_none {writeOption : Option α → Json} (hwrite : writeOption none = .null) :
    Rereads (.option r) writeOption depth none := by
  rw [Rereads, hwrite]
  rintro - w ⟨⟩
  rfl

theorem lossless_option (hnull : ∀ depth, r depth .null = none) (h : Lossless r write) :
    Lossless (.option r) (ofOption write) := by
  intro depth t o hread
  by_cases ht : t = .null
  · subst ht
    cases hread
    exact rereads_none rfl
  · rw [option_of_ne_null ht] at hread
    obtain ⟨a, ha, rfl⟩ := Option.map_eq_some_iff.mp hread
    exact rereads_some rfl (by simp [hnull]) (h depth t a ha)

/-- Only `null` is read as `null`. -/
theorem eq_null_of_toJson? {t : Tree} (h : t.toJson? depth = some .null) : t = .null := by
  cases t with
  | null => rfl
  | bool => cases h
  | numeral n =>
    rw [Tree.toJson?, Numeral.toJson?] at h
    split at h
    · cases h
    · simp at h
  | string s => simp [Tree.toJson?] at h
  | array items => simp [Tree.toJson?] at h
  | object fields => simp [Tree.toJson?] at h

theorem lossless_optionValue : Lossless (.option .value) (·.getD .null) := by
  intro depth t o hread
  by_cases ht : t = .null
  · subst ht
    cases hread
    exact rereads_none rfl
  · rw [option_of_ne_null ht] at hread
    obtain ⟨v, hv, rfl⟩ := Option.map_eq_some_iff.mp hread
    refine rereads_some rfl ?_ (lossless_value depth t v hv)
    rintro ⟨⟩
    exact ht (eq_null_of_toJson? hv)

/-! ## Records -/

/-- A field's value, unless it is left out. -/
def omitIf (absent : Bool) (v : Json) : Option Json := if absent then none else some v

/-- The fields that are there. -/
def present (entries : List (String × Option Json)) : List (String × Json) :=
  entries.filterMap fun e => e.2.map (e.1, ·)

@[simp] theorem present_nil : present [] = [] := rfl

@[simp] theorem present_some (name : String) (v : Json) (entries : List (String × Option Json)) :
    present ((name, some v) :: entries) = (name, v) :: present entries := rfl

@[simp] theorem present_omitIf (name : String) (absent : Bool) (v : Json)
    (entries : List (String × Option Json)) :
    present ((name, omitIf absent v) :: entries) =
      fieldUnless absent name v ++ present entries := by
  cases absent <;> rfl

/-- The record's field holds the value, perhaps reordered, or there is no such field. -/
def Stands (rec : Record) (name : String) : Option Json → Prop
  | some v => v.Exact ∧ ∃ w, v.Reordered w ∧ rec.fields.lookup name = some w.tree
  | none => rec.fields.lookup name = none

theorem lookup_of_mem {β : Type} {fields : List (String × β)} {e : String × β}
    (hnodup : (fields.map (·.1)).Nodup) (h : e ∈ fields) : fields.lookup e.1 = some e.2 := by
  induction fields with
  | nil => cases h
  | cons first rest ih =>
    obtain ⟨hfirst, hrest⟩ := List.nodup_cons.mp hnodup
    rw [lookup_cons_ite]
    rcases List.mem_cons.mp h with rfl | h
    · exact if_pos rfl
    · have hmem : e.1 ∈ rest.map (·.1) := List.mem_map_of_mem h
      rw [if_neg fun he => hfirst (by rwa [he] at hmem), ih hrest h]

theorem lookup_eq_none_of_not_mem {β : Type} {fields : List (String × β)} {name : String}
    (h : name ∉ fields.map (·.1)) : fields.lookup name = none :=
  List.lookup_eq_none_iff.mpr fun e he => by
    have hne : name ≠ e.1 := fun heq => h (heq ▸ List.mem_map_of_mem he)
    simpa using hne

/-- Fields of different known names are all known. -/
theorem known_fieldTrees {names : List String} {fields : List (String × Json)}
    (hnodup : (fields.map (·.1)).Nodup) (hnames : ∀ e ∈ fields, e.1 ∈ names) :
    Record.known names (fieldTrees fields) = some (fields.map fun e => (e.1, e.2.tree)) := by
  induction fields with
  | nil => rfl
  | cons e rest ih =>
    obtain ⟨hfirst, hrest⟩ := List.nodup_cons.mp hnodup
    obtain ⟨hname, hnames⟩ := List.forall_mem_cons.mp hnames
    have hnone : (rest.map fun e => (e.1, e.2.tree)).lookup e.1 = none := by
      rw [lookup_map_snd, lookup_eq_none_of_not_mem hfirst, Option.map_none]
    show (Record.known names (fieldTrees rest)).bind _ = _
    rw [ih hrest hnames, Option.bind_some, if_pos hname, hnone]
    rfl

theorem mem_present {entries : List (String × Option Json)} {name : String} {v : Json} :
    (name, v) ∈ present entries ↔ (name, some v) ∈ entries := by
  rw [present, List.mem_filterMap]
  constructor
  · rintro ⟨⟨name', v'⟩, hmem, he⟩
    obtain ⟨v, rfl, he⟩ := Option.map_eq_some_iff.mp he
    cases he
    exact hmem
  · exact fun hmem => ⟨_, hmem, rfl⟩

theorem keys_present_sublist (entries : List (String × Option Json)) :
    ((present entries).map (·.1)).Sublist (entries.map (·.1)) := by
  induction entries with
  | nil => exact .slnil
  | cons e rest ih =>
    obtain ⟨name, v⟩ := e
    cases v with
    | none => exact ih.cons name
    | some v => exact ih.cons_cons name

/-- What has been written for a record is read as a record in which every field stands. -/
theorem exists_record (names : List String) {entries : List (String × Option Json)}
    (hnames : entries.map (·.1) = names) (hnodup : names.Nodup)
    (hexact : (Json.object (present entries)).Exact) {w : Json}
    (hw : (Json.object (present entries)).Reordered w) (depth : Nat) :
    ∃ fields, Record.ofTree? names depth w.tree = some ⟨depth + 1, fields⟩ ∧
      ∀ e ∈ entries, Stands ⟨depth + 1, fields⟩ e.1 e.2 := by
  subst hnames
  obtain ⟨moved, fields, rfl, hperm, haligned⟩ := hw.exists_fields
  have hkeys : fields.map (·.1) = moved.map (·.1) := by
    rw [← List.forall₂_eq_eq_eq, List.forall₂_map_left_iff, List.forall₂_map_right_iff]
    exact (haligned.imp fun e e' h => h.1.symm).flip
  have hfieldKeys : (fields.map (·.1)).Perm ((present entries).map (·.1)) :=
    hkeys ▸ (hperm.symm.map _)
  have hfieldNodup : (fields.map (·.1)).Nodup :=
    hfieldKeys.nodup_iff.mpr (hnodup.sublist (keys_present_sublist entries))
  have hfieldNames : ∀ e ∈ fields, e.1 ∈ entries.map (·.1) := fun e he =>
    (keys_present_sublist entries).subset (hfieldKeys.mem_iff.mp (List.mem_map_of_mem he))
  refine ⟨_, congrArg (Option.map _) (known_fieldTrees hfieldNodup hfieldNames), ?_⟩
  rintro ⟨name, v⟩ hentry
  cases v with
  | none =>
    refine lookup_eq_none_of_not_mem fun hmem => ?_
    rw [List.map_map] at hmem
    obtain ⟨e, he, hname⟩ := List.mem_map.mp (hfieldKeys.mem_iff.mp hmem)
    have hsame := List.inj_on_of_nodup_map hnodup (mem_present.mp he) hentry hname
    cases congrArg Prod.snd hsame
  | some v =>
    have hpresent := mem_present.mpr hentry
    obtain ⟨e, he, hsame, hw⟩ := exists_of_mem_forall₂ haligned.flip (hperm.mem_iff.mp hpresent)
    refine ⟨exact_object.mp hexact _ hpresent, e.2, hw, ?_⟩
    cases hsame
    rw [lookup_map_snd, lookup_of_mem hfieldNodup he, Option.map_some]

theorem depth_ofTree? {names : List String} {t : Tree} {rec : Record}
    (h : Record.ofTree? names depth t = some rec) : rec.depth = depth + 1 := by
  cases t with
  | object fields =>
    obtain ⟨fields, -, rfl⟩ := Option.map_eq_some_iff.mp h
    rfl
  | array items =>
    rw [Record.ofTree?] at h
    split at h
    · cases h
      rfl
    · cases h
  | null | bool | numeral | string => cases h

variable {fields : List (String × Tree)} {name : String}

/-! What has been written in a field is read in it. -/

theorem Rereads.required (hr : Rereads r write depth a)
    (h : Stands ⟨depth, fields⟩ name (some (write a))) :
    Record.required ⟨depth, fields⟩ name r = some a := by
  obtain ⟨hexact, w, hw, hlookup⟩ := h
  rw [Record.required, hlookup, Option.bind_some, hr hexact w hw]

theorem Rereads.optional (hr : Rereads r write depth a) (absent : α)
    (h : Stands ⟨depth, fields⟩ name (some (write a))) :
    Record.optional ⟨depth, fields⟩ name absent r = some a := by
  obtain ⟨hexact, w, hw, hlookup⟩ := h
  rw [Record.optional, hlookup]
  exact hr hexact w hw

/-- What is left out is what absence stands for. -/
theorem Rereads.optional_omitIf {left : Bool} (hr : Rereads r write depth a) (absent : α)
    (hleft : left = true → a = absent) (h : Stands ⟨depth, fields⟩ name (omitIf left (write a))) :
    Record.optional ⟨depth, fields⟩ name absent r = some a := by
  cases left with
  | false => exact hr.optional absent h
  | true => rw [Record.optional, show fields.lookup name = none from h, hleft rfl]

/-! What was read in a field can be read again. -/

theorem Lossless.of_required (h : Lossless r write)
    (hread : Record.required ⟨depth, fields⟩ name r = some a) : Rereads r write depth a := by
  obtain ⟨t, -, ht⟩ := Option.bind_eq_some_iff.mp hread
  exact h _ t a ht

theorem Lossless.of_optional {absent : α} (h : Lossless r write)
    (hread : Record.optional ⟨depth, fields⟩ name absent r = some a)
    (habsent : Rereads r write depth absent) : Rereads r write depth a := by
  rw [Record.optional] at hread
  split at hread
  · exact h _ _ a hread
  · exact Option.some.inj hread ▸ habsent

/-- A record is read again if it is read from every record in which its fields stand. -/
theorem lossless_record (names : List String) (entries : α → List (String × Option Json))
    {body : Record → Option α} (hnodup : names.Nodup)
    (hnames : ∀ a, (entries a).map (·.1) = names)
    (hwrite : ∀ a, write a = .object (present (entries a)))
    (hbody : ∀ depth fields fields' a, body ⟨depth, fields⟩ = some a →
      (∀ e ∈ entries a, Stands ⟨depth, fields'⟩ e.1 e.2) → body ⟨depth, fields'⟩ = some a) :
    Lossless (fun depth t => Record.ofTree? names depth t >>= body) write := by
  intro depth t a hread
  obtain ⟨⟨_, fields⟩, hrec, ha⟩ := Option.bind_eq_some_iff.mp hread
  obtain rfl := depth_ofTree? hrec
  intro hexact w hw
  rw [hwrite] at hexact hw
  obtain ⟨fields', hfields, hstands⟩ := exists_record names (hnames a) hnodup hexact hw depth
  show (Record.ofTree? names depth w.tree).bind body = some a
  rw [hfields, Option.bind_some, hbody _ fields fields' a ha hstands]

end Guardrail.Json
