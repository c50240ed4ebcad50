import Guardrail.Proofs.Json.Scanning
import Mathlib.Data.List.Forall2

/-! # Texts of values

The machine reads the tokens of a tree as the tree (`Tree.ofTokens?_tokens`). Either text of a
value, on one line or on many, is scanned as the tokens of the value's tree, so both are read as
that tree (`parse_compact`, `parse_pretty`). -/

namespace Guardrail.Json

/-! ## Tokens of a tree -/

namespace Tree

mutual

/-- The tokens that say what the tree says. -/
def tokens : Tree → List Token
  | null => [.null]
  | bool b => [.bool b]
  | numeral n => [.numeral n]
  | string s => [.string s]
  | array items => .openArray :: ([Token.comma].intercalate (itemTokens items) ++ [.closeArray])
  | object fields =>
    .openObject :: ([Token.comma].intercalate (fieldTokens fields) ++ [.closeObject])

def itemTokens : List Tree → List (List Token)
  | [] => []
  | t :: ts => tokens t :: itemTokens ts

def fieldTokens : List (Option String × Tree) → List (List Token)
  | [] => []
  | (k, t) :: ts => (.string k :: .colon :: tokens t) :: fieldTokens ts

end

theorem intercalate_itemTokens (t t' : Tree) (ts : List Tree) :
    [Token.comma].intercalate (itemTokens (t :: t' :: ts)) =
      t.tokens ++ .comma :: [Token.comma].intercalate (itemTokens (t' :: ts)) := by
  rw [itemTokens, itemTokens, List.intercalate_cons_cons, List.append_assoc]
  rfl

theorem intercalate_fieldTokens (k : Option String) (t : Tree) (f : Option String × Tree)
    (fs : List (Option String × Tree)) :
    [Token.comma].intercalate (fieldTokens ((k, t) :: f :: fs)) =
      .string k :: .colon ::
        (t.tokens ++ .comma :: [Token.comma].intercalate (fieldTokens (f :: fs))) := by
  rw [fieldTokens, fieldTokens, List.intercalate_cons_cons, List.append_assoc]
  rfl

/-- A value begins in the same way as the first item and as a later one. -/
theorem step_firstItem {tok : Token} (h : tok ≠ .closeArray) (stack : List Frame) :
    step (.firstItem stack) tok = step (.value (.array [] :: stack)) tok := by
  cases tok <;> first | rfl | exact absurd rfl h

theorem exists_tokens (t : Tree) : ∃ tok rest, t.tokens = tok :: rest ∧ tok ≠ .closeArray := by
  cases t with
  | null | bool | numeral | string | array | object => exact ⟨_, _, by rw [tokens], by simp⟩

theorem foldlM_firstItem (items : List Tree) (h : items ≠ []) (stack : List Frame)
    (later : List Token) :
    ([Token.comma].intercalate (itemTokens items) ++ later).foldlM step (.firstItem stack) =
      ([Token.comma].intercalate (itemTokens items) ++ later).foldlM step
        (.value (.array [] :: stack)) := by
  obtain ⟨t, ts, rfl⟩ := List.exists_cons_of_ne_nil h
  obtain ⟨tok, rest, htokens, hne⟩ := exists_tokens t
  obtain ⟨rest', hrest⟩ : ∃ rest',
      [Token.comma].intercalate (itemTokens (t :: ts)) = tok :: rest' := by
    rw [itemTokens, htokens]
    cases itemTokens ts with
    | nil => exact ⟨rest, List.intercalate_singleton ..⟩
    | cons => exact ⟨_, List.intercalate_cons_cons ..⟩
  rw [hrest, List.cons_append, List.foldlM_cons, List.foldlM_cons, step_firstItem hne]

mutual

/-- The machine takes the tokens of a tree to where the tree is complete. -/
theorem foldlM_tokens (stack : List Frame) (later : List Token) : ∀ t : Tree,
    (t.tokens ++ later).foldlM step (.value stack) = later.foldlM step (.complete t stack)
  | null => rfl
  | bool _ => rfl
  | numeral _ => rfl
  | string _ => rfl
  | array [] => rfl
  | array (t :: ts) => by
    have hfirst := foldlM_firstItem (t :: ts) (by simp) stack (.closeArray :: later)
    rw [tokens, List.cons_append, List.append_assoc]
    exact hfirst.trans (foldlM_items stack later [] (t :: ts) (by simp))
  | object [] => rfl
  | object (f :: fs) => by
    rw [tokens, List.cons_append, List.append_assoc]
    exact foldlM_fields stack later [] (.firstKey stack) (fun _ => rfl) (f :: fs) (by simp)

theorem foldlM_items (stack : List Frame) (later : List Token) (done : List Tree) :
    ∀ items : List Tree, items ≠ [] →
      ([Token.comma].intercalate (itemTokens items) ++ .closeArray :: later).foldlM step
        (.value (.array done :: stack)) =
      later.foldlM step (.complete (.array (done.reverse ++ items)) stack)
  | [], h => absurd rfl h
  | [t], _ => by
    rw [itemTokens, itemTokens, List.intercalate_singleton, foldlM_tokens, ← List.reverse_cons]
    rfl
  | t :: t' :: ts, _ => by
    have hlater := foldlM_items stack later (t :: done) (t' :: ts) (by simp)
    rw [List.reverse_cons, List.append_assoc] at hlater
    rw [intercalate_itemTokens, List.append_assoc, foldlM_tokens]
    exact hlater

/-- A key follows the opening bracket or a comma. -/
theorem foldlM_fields (stack : List Frame) (later : List Token)
    (done : List (Option String × Tree)) (s : State)
    (hs : ∀ k, step s (.string k) = some (.colon done k stack)) :
    ∀ fields : List (Option String × Tree), fields ≠ [] →
      ([Token.comma].intercalate (fieldTokens fields) ++ .closeObject :: later).foldlM step s =
        later.foldlM step (.complete (.object (done.reverse ++ fields)) stack)
  | [], h => absurd rfl h
  | [(k, t)], _ => by
    rw [fieldTokens, fieldTokens, List.intercalate_singleton, List.cons_append, List.cons_append,
      List.foldlM_cons, hs]
    have hvalue := foldlM_tokens (.object done k :: stack) (.closeObject :: later) t
    rw [← List.reverse_cons]
    exact hvalue
  | (k, t) :: f :: fs, _ => by
    have hvalue := foldlM_tokens (.object done k :: stack) (.comma ::
      ([Token.comma].intercalate (fieldTokens (f :: fs)) ++ .closeObject :: later)) t
    have hlater := foldlM_fields stack later ((k, t) :: done) (.key ((k, t) :: done) stack)
      (fun _ => rfl) (f :: fs) (by simp)
    rw [List.reverse_cons, List.append_assoc] at hlater
    rw [intercalate_fieldTokens, List.cons_append, List.cons_append, List.append_assoc,
      List.foldlM_cons, hs]
    exact hvalue.trans hlater

end

theorem ofTokens?_tokens (t : Tree) : ofTokens? t.tokens = some t := by
  have h := foldlM_tokens [] [] t
  rw [List.append_nil] at h
  rw [ofTokens?, h]
  rfl

end Tree

/-! ## The tree of a value -/

mutual

/-- What the texts of a value say. -/
def tree : Json → Tree
  | null => .null
  | bool b => .bool b
  | integer i => .numeral (Spelling.ofInt i).numeral
  | float d => (Tree.parse d.render).getD .null
  | string s => .string (some s)
  | array items => .array (itemTrees items)
  | object fields => .object (fieldTrees fields)

def itemTrees : List Json → List Tree
  | [] => []
  | v :: rest => tree v :: itemTrees rest

def fieldTrees : List (String × Json) → List (Option String × Tree)
  | [] => []
  | (k, v) :: rest => (some k, tree v) :: fieldTrees rest

end

theorem itemTrees_eq_map (items : List Json) : itemTrees items = items.map tree := by
  induction items with
  | nil => rfl
  | cons v rest ih => rw [itemTrees, ih, List.map_cons]

theorem fieldTrees_eq_map (fields : List (String × Json)) :
    fieldTrees fields = fields.map fun e => (some e.1, e.2.tree) := by
  induction fields with
  | nil => rfl
  | cons e rest ih => rw [fieldTrees, ih, List.map_cons]

open Token (Scans Writes)

theorem parse_of_writes {text : String} {t : Tree} (h : Writes text.toList t.tokens) :
    Tree.parse text = some t := by
  have hscan := h [] [] (fun _ hc => by cases hc) Scans.nil
  rw [List.append_nil, List.append_nil] at hscan
  rw [Tree.parse, Token.scanAll, hscan _ le_rfl, Option.bind_some, Tree.ofTokens?_tokens]

theorem writes_null : Writes "null".toList [.null] :=
  Writes.token rfl fun _ _ => rfl

theorem writes_bool (b : Bool) : Writes (if b then "true" else "false").toList [.bool b] := by
  cases b with
  | true => exact Writes.token rfl fun _ _ => rfl
  | false => exact Writes.token rfl fun _ _ => rfl

theorem writes_integer (i : Int) :
    Writes (toString i).toList [.numeral (Spelling.ofInt i).numeral] := by
  rw [Spelling.toList_toString_int]
  exact Writes.numeral (Spelling.proper_ofInt i)

theorem writes_float (d : Double) : Writes d.render.toList (tree (float d)).tokens := by
  obtain ⟨t, ht⟩ : ∃ t : Tree, Writes d.render.toList t.tokens := by
    cases h : d.isFinite with
    | true =>
      obtain ⟨s, hs, htext⟩ := d.exists_spelling h
      exact ⟨.numeral s.numeral, htext ▸ Writes.numeral hs⟩
    | false =>
      have htext : d.render = "null" := by rw [Double.render, h]; rfl
      exact ⟨.null, htext ▸ writes_null⟩
  rw [tree, parse_of_writes ht]
  exact ht

theorem writes_quoted (s : String) : Writes (quoted s).toList [.string (some s)] :=
  fun _ _ _ h => Scans.quoted s h

/-! Brackets around what is written, and blanks where the text has line breaks. -/

section Brackets

variable {text blanks : List Char} {ts : List Token}

theorem ends_blanks {rest : List Char} (hblank : ∀ c ∈ blanks, Token.isSpace c = true)
    (h : Ends rest) : Ends (blanks ++ rest) := by
  cases blanks with
  | nil => exact h
  | cons c cs =>
    have hc := hblank c List.mem_cons_self
    simp only [Token.isSpace, Bool.or_eq_true, decide_eq_true_eq] at hc
    refine ends_of_head ?_ _
    rcases hc with ((rfl | rfl) | rfl) | rfl <;> decide

theorem writes_array (h : Writes text ts) (hblank : ∀ c ∈ blanks, Token.isSpace c = true) :
    Writes ('[' :: (text ++ (blanks ++ [']']))) (.openArray :: (ts ++ [.closeArray])) := by
  intro rest later _ hrest
  have hclose := Scans.blanks hblank (Scans.closeArray hrest)
  have hends := ends_blanks hblank (ends_of_head (c := ']') (by decide) rest)
  simpa using Scans.openArray (h _ _ hends hclose)

theorem writes_object (h : Writes text ts) (hblank : ∀ c ∈ blanks, Token.isSpace c = true) :
    Writes ('\x7b' :: (text ++ (blanks ++ ['\x7d']))) (.openObject :: (ts ++ [.closeObject])) := by
  intro rest later _ hrest
  have hclose := Scans.blanks hblank (Scans.closeObject hrest)
  have hends := ends_blanks hblank (ends_of_head (c := '\x7d') (by decide) rest)
  simpa using Scans.openObject (h _ _ hends hclose)

theorem writes_field (k : String) (h : Writes text ts)
    (hblank : ∀ c ∈ blanks, Token.isSpace c = true) :
    Writes ((quoted k).toList ++ ':' :: (blanks ++ text)) (.string (some k) :: .colon :: ts) := by
  intro rest later hends hrest
  have hvalue := Scans.colon (Scans.blanks hblank (h rest later hends hrest))
  simpa using Scans.quoted k hvalue

end Brackets

/-- Texts and the tokens that they are scanned as. -/
abbrev AllWrite (texts : List String) (tokens : List (List Token)) : Prop :=
  List.Forall₂ (fun text ts => Writes text.toList ts) texts tokens

theorem AllWrite.intercalate {texts : List String} {tokens : List (List Token)}
    (h : AllWrite texts tokens) :
    Writes (",".intercalate texts).toList ([Token.comma].intercalate tokens) := by
  rw [String.toList_intercalate]
  exact Writes.intercalate (List.forall₂_map_left_iff.mpr h)

/-! ## One line -/

mutual

theorem writes_compact : ∀ v : Json, Writes v.compact.toList v.tree.tokens
  | null => writes_null
  | bool b => writes_bool b
  | integer i => writes_integer i
  | float d => writes_float d
  | string s => writes_quoted s
  | array items => by
    have htext : (array items).compact.toList =
        '[' :: ((",".intercalate (compactItems items)).toList ++ ([] ++ [']'])) := by
      simp [compact]
    rw [htext]
    exact writes_array (allWrite_compactItems items).intercalate (List.forall_mem_nil _)
  | object fields => by
    have htext : (object fields).compact.toList =
        '\x7b' :: ((",".intercalate (compactFields fields)).toList ++ ([] ++ ['\x7d'])) := by
      simp [compact]
    rw [htext]
    exact writes_object (allWrite_compactFields fields).intercalate (List.forall_mem_nil _)

theorem allWrite_compactItems : ∀ items : List Json,
    AllWrite (compactItems items) (Tree.itemTokens (itemTrees items))
  | [] => .nil
  | v :: rest => .cons (writes_compact v) (allWrite_compactItems rest)

theorem allWrite_compactFields : ∀ fields : List (String × Json),
    AllWrite (compactFields fields) (Tree.fieldTokens (fieldTrees fields))
  | [] => .nil
  | (k, v) :: rest => by
    have htext : (quoted k ++ ":" ++ v.compact).toList =
        (quoted k).toList ++ ':' :: ([] ++ v.compact.toList) := by
      simp
    refine .cons ?_ (allWrite_compactFields rest)
    rw [htext]
    exact writes_field k (writes_compact v) (List.forall_mem_nil _)

end

theorem parse_compact (v : Json) : Tree.parse v.compact = some v.tree :=
  parse_of_writes (writes_compact v)

/-! ## Many lines -/

theorem newline_blank (level : Nat) : ∀ c ∈ (newline level).toList, Token.isSpace c = true := by
  have htext : (newline level).toList = '\n' :: List.replicate (2 * level) ' ' := by
    simp [newline]
  rw [htext]
  refine List.forall_mem_cons.mpr ⟨rfl, fun c hc => ?_⟩
  rw [List.eq_of_mem_replicate hc]
  rfl

mutual

theorem writes_pretty (level : Nat) : ∀ v : Json, Writes (v.pretty level).toList v.tree.tokens
  | null => writes_null
  | bool b => writes_bool b
  | integer i => writes_integer i
  | float d => writes_float d
  | string s => writes_quoted s
  | array [] => writes_compact (array [])
  | array (v :: rest) => by
    have htext : ((array (v :: rest)).pretty level).toList =
        '[' :: ((",".intercalate (prettyItems (level + 1) (v :: rest))).toList
          ++ ((newline level).toList ++ [']'])) := by
      simp [pretty]
    rw [htext]
    exact writes_array (allWrite_prettyItems (level + 1) (v :: rest)).intercalate
      (newline_blank level)
  | object [] => writes_compact (object [])
  | object (f :: rest) => by
    have htext : ((object (f :: rest)).pretty level).toList =
        '\x7b' :: ((",".intercalate (prettyFields (level + 1) (f :: rest))).toList
          ++ ((newline level).toList ++ ['\x7d'])) := by
      simp [pretty]
    rw [htext]
    exact writes_object (allWrite_prettyFields (level + 1) (f :: rest)).intercalate
      (newline_blank level)

theorem allWrite_prettyItems (level : Nat) : ∀ items : List Json,
    AllWrite (prettyItems level items) (Tree.itemTokens (itemTrees items))
  | [] => .nil
  | v :: rest => by
    refine .cons ?_ (allWrite_prettyItems level rest)
    rw [String.toList_append]
    exact (writes_pretty level v).blanks (newline_blank level)

theorem allWrite_prettyFields (level : Nat) : ∀ fields : List (String × Json),
    AllWrite (prettyFields level fields) (Tree.fieldTokens (fieldTrees fields))
  | [] => .nil
  | (k, v) :: rest => by
    have htext : (newline level ++ quoted k ++ ": " ++ pretty level v).toList =
        (newline level).toList ++
          ((quoted k).toList ++ ':' :: ([' '] ++ (v.pretty level).toList)) := by
      simp
    refine .cons ?_ (allWrite_prettyFields level rest)
    rw [htext]
    have hspace : ∀ c ∈ [' '], Token.isSpace c = true := List.forall_mem_singleton.mpr rfl
    exact (writes_field k (writes_pretty level v) hspace).blanks (newline_blank level)

end

theorem parse_pretty (level : Nat) (v : Json) : Tree.parse (v.pretty level) = some v.tree :=
  parse_of_writes (writes_pretty level v)

end Guardrail.Json
