import Mathlib.Data.List.Flatten
import DefUse.Lua.Adapter
import DefUse.Lua.Token
import DefUse.Proofs.Lua.Contract
import DefUse.Proofs.Value.Proper

/-!
# Proofs/Lua/Words — the records of a tree, kind by kind

The words of a tree are those of its source that can still be told from it, read from left to right:
names, texts, numbers, and the words that begin the clauses of a conditional.

`Spelled ws vs` says that some values have the words `ws`, that all their nodes conform and that
they are proper; `Converted ws vs` says besides that they are nodes.  Both are shown for the record
of every kind, from its parts: the words of the parts come one after the other, and the record keeps
the contract of its kind.
-/

namespace DefUse

open Lua (Token)

/-! ## Words -/

namespace Value

/-- The words a node adds to those of its fields. -/
def ownWords (v : Value) : List Token :=
  match kindOf v, v.field "name", v.field "value" with
  | .str "Identifier", .str n, _ => [.name n]
  | .str "StringLiteral", _, .str s => [.text s]
  | .str "NumericLiteral", _, .int n => [.numeral (.whole n.toNat)]
  | .str "NumericLiteral", _, .float x => [.numeral (.real x)]
  | .str "IfClause", _, _ => [.keyword "if"]
  | .str "ElseifClause", _, _ => [.keyword "elseif"]
  | .str "ElseClause", _, _ => [.keyword "else"]
  | _, _, _ => []

mutual

/-- **The words of a value**, from left to right. -/
def words : Value → List Token
  | record fields => ownWords (record fields) ++ wordsOfFields fields
  | list items => wordsOfItems items
  | _ => []

/-- The words of some items. -/
def wordsOfItems : List Value → List Token
  | [] => []
  | v :: rest => words v ++ wordsOfItems rest

/-- The words of some fields. -/
def wordsOfFields : List (String × Value) → List Token
  | [] => []
  | (_, v) :: rest => words v ++ wordsOfFields rest

end

/-- The words of items are those of each, in a row. -/
theorem wordsOfItems_eq (items : List Value) : wordsOfItems items = items.flatMap words := by
  induction items with
  | nil => rfl
  | cons v rest ih => exact (congrArg (words v ++ ·) ih).trans List.flatMap_cons.symm

/-- The words of fields are those of their values, in a row. -/
theorem wordsOfFields_eq (fields : List (String × Value)) :
    wordsOfFields fields = (fields.map (·.2)).flatMap words := by
  induction fields with
  | nil => rfl
  | cons field rest ih => exact (congrArg (words field.2 ++ ·) ih).trans List.flatMap_cons.symm

end Value

namespace Lua

variable {kind : String} {fields : List (String × Value)} {v : Value} {vs : List Value}
variable {ws ws' : List Token}

/-- The words of a node are its own and those of its fields. -/
theorem words_node (kind : String) (fields : List (String × Value)) :
    (node kind fields).words =
      (node kind fields).ownWords ++ (fields.map (·.2)).flatMap Value.words := by
  rw [← Value.wordsOfFields_eq]
  rfl

/-- **Values spelled by words**: they have these words, all their nodes conform, and they are
proper. -/
structure Spelled (ws : List Token) (vs : List Value) : Prop where
  words : vs.flatMap Value.words = ws
  nodes : ∀ v ∈ vs, v.AllNodes Conforms
  proper : ∀ v ∈ vs, v.Proper

/-- **Nodes spelled by words.** -/
structure Converted (ws : List Token) (vs : List Value) : Prop extends Spelled ws vs where
  records : ∀ v ∈ vs, v.isRecord = true

namespace Spelled

theorem nil : Spelled [] [] := ⟨rfl, List.forall_mem_nil _, List.forall_mem_nil _⟩

/-- What is spelled one after the other is spelled together. -/
theorem append {vs' : List Value} (h : Spelled ws vs) (h' : Spelled ws' vs') :
    Spelled (ws ++ ws') (vs ++ vs') := by
  refine ⟨by rw [List.flatMap_append, h.words, h'.words], ?_, ?_⟩
  · exact List.forall_mem_append.2 ⟨h.nodes, h'.nodes⟩
  · exact List.forall_mem_append.2 ⟨h.proper, h'.proper⟩

/-- A text that is no name has no words of its own. -/
theorem str (s : String) : Spelled [] [.str s] :=
  ⟨rfl, List.forall_mem_singleton.2 (.str s), List.forall_mem_singleton.2 trivial⟩

theorem bool (b : Bool) : Spelled [] [.bool b] :=
  ⟨rfl, List.forall_mem_singleton.2 trivial, List.forall_mem_singleton.2 trivial⟩

theorem null : Spelled [] [.null] :=
  ⟨rfl, List.forall_mem_singleton.2 .null, List.forall_mem_singleton.2 trivial⟩

theorem list (h : Spelled ws vs) : Spelled ws [.list vs] := by
  refine ⟨?_, List.forall_mem_singleton.2 (Value.allNodes_list.2 h.nodes),
    List.forall_mem_singleton.2 (Value.proper_list.2 h.proper)⟩
  rw [List.flatMap_singleton]
  exact (Value.wordsOfItems_eq vs).trans h.words

end Spelled

/-! ## Records -/

/-- A number that is a double is one in its normal form. -/
def Numeral.Canonical : Numeral → Prop
  | whole _ => True
  | real x => x.Canonical

namespace Converted

variable {base value : Value} {args body : List Value} {ws'' : List Token}

theorem nil : Converted [] [] := ⟨.nil, List.forall_mem_nil _⟩

/-- Nodes in a row have their words in a row. -/
theorem cons (h : Converted ws [v]) (h' : Converted ws' vs) : Converted (ws ++ ws') (v :: vs) :=
  ⟨h.toSpelled.append h'.toSpelled,
    List.forall_mem_cons.2 ⟨h.records v List.mem_cons_self, h'.records⟩⟩

/-- A node is a record. -/
theorem isRecord (h : Converted ws [v]) : v.isRecord = true := h.records v List.mem_cons_self

/-- **A record is spelled by its own words and those of its fields.** -/
theorem record (own : List Token) (hc : Conforms (node kind fields))
    (hown : (node kind fields).ownWords = own) (hkeys : ("type" :: fields.map (·.1)).Nodup)
    (h : Spelled ws (fields.map (·.2))) : Converted (own ++ ws) [node kind fields] := by
  refine ⟨⟨?_, List.forall_mem_singleton.2 ?_, List.forall_mem_singleton.2 ?_⟩,
    List.forall_mem_singleton.2 rfl⟩
  · rw [List.flatMap_singleton, words_node, hown, h.words]
  · exact Value.allNodes_record.2 ⟨hc, .str kind, Value.allNodesOfFields_iff.2 h.nodes⟩
  · exact Value.proper_record.2 ⟨hkeys,
      List.forall_mem_cons.2 ⟨trivial, fun f hf => h.proper f.2 (List.mem_map_of_mem hf)⟩⟩

/-- A record of a kind without lists and parts. -/
theorem bare (own : List Token)
    (hbare : kind ∈ nodeKinds ∧ arrayFields kind = [] ∧ nodeFields kind = [])
    (hown : (node kind fields).ownWords = own) (hkeys : ("type" :: fields.map (·.1)).Nodup)
    (hleft : (node kind fields).field "left" = .null) (hpromise : Promise kind (node kind fields))
    (h : Spelled ws (fields.map (·.2))) : Converted (own ++ ws) [node kind fields] :=
  .record own (conforms_of_bare rfl hbare hleft hpromise) hown hkeys h

/-- A name is its own word. -/
theorem identifier {id : String} (hid : id ≠ "") :
    Converted [.name id] [node "Identifier" [("name", .str id)]] :=
  .bare [.name id] (by decide) rfl (by simp) rfl ⟨id, rfl, hid⟩ (.str id)

/-- A member has the words of its handle and then its name. -/
theorem member (sep : Separator) (h : Converted ws [base]) (hid : Converted ws' [value])
    (hkind : kindOf value = .str "Identifier") :
    Converted (ws ++ ws') [Lua.member base sep value] := by
  have hsep : sep.text = "." ∨ sep.text = ":" := by cases sep <;> decide
  refine .record [] ⟨_, rfl, ?_⟩ rfl (by simp) ((Spelled.str sep.text).append
    (h.toSpelled.append hid.toSpelled))
  exact {
    known := by decide
    arrays := List.forall_mem_nil _
    parts := List.forall_mem_cons.2 ⟨h.isRecord, List.forall_mem_singleton.2 hid.isRecord⟩
    left := fun _ => rfl
    promise := ⟨hsep.imp (congrArg Value.str) (congrArg Value.str), hkind⟩ }

/-- An index has the words of what is indexed and then those of the index. -/
theorem index (h : Converted ws [base]) (h' : Converted ws' [value]) :
    Converted (ws ++ ws') [node "IndexExpression" [("base", base), ("index", value)]] :=
  .bare [] (by decide) rfl (by simp) rfl trivial (h.toSpelled.append h'.toSpelled)

/-- A call has the words of what is called and then those of its arguments. -/
theorem call (h : Converted ws [base]) (hargs : Converted ws' args) :
    Converted (ws ++ ws') [callNode base args] := by
  refine .record [] ⟨_, rfl, ?_⟩ rfl (by simp) (h.toSpelled.append hargs.list)
  exact {
    known := by decide
    arrays := List.forall_mem_singleton.2 ⟨_, rfl, hargs.records⟩
    parts := List.forall_mem_singleton.2 h.isRecord
    left := fun _ => rfl
    promise := trivial }

/-- A number is its own word, in normal form. -/
theorem number {n : Numeral} (hn : n.Canonical) :
    Converted [.numeral n] [node "NumericLiteral" [("value", n.toValue)]] := by
  cases n with
  | whole n =>
    exact .bare [.numeral (.whole n)] (by decide) rfl (by simp) rfl trivial
      ⟨rfl, List.forall_mem_singleton.2 trivial, List.forall_mem_singleton.2 trivial⟩
  | real x =>
    exact .bare [.numeral (.real x)] (by decide) rfl (by simp) rfl trivial
      ⟨rfl, List.forall_mem_singleton.2 trivial, List.forall_mem_singleton.2 hn⟩

/-- A text is its own word. -/
theorem string (s : String) : Converted [.text s] [node "StringLiteral" [("value", .str s)]] :=
  .bare [.text s] (by decide) rfl (by simp) rfl trivial (.str s)

/-- A truth value has no words. -/
theorem boolean (b : Bool) : Converted [] [node "BooleanLiteral" [("value", .bool b)]] :=
  .bare [] (by decide) rfl (by simp) rfl trivial (.bool b)

/-- A record that has nothing but its kind. -/
theorem single (hkind : kind ∈ ["NilLiteral", "VarargLiteral", "TableConstructorExpression"] ++
      unmodelledStatements.map (·.2)) : Converted [] [node kind []] := by
  simp only [unmodelledStatements, List.map_cons, List.map_nil, List.cons_append, List.nil_append,
    List.mem_cons, List.not_mem_nil, or_false] at hkind
  rcases hkind with rfl | rfl | rfl | rfl | rfl | rfl | rfl | rfl | rfl | rfl | rfl
  all_goals exact .bare [] (by decide) rfl (by simp) rfl trivial .nil

/-- An operator stands between its operands and is no word. -/
theorem binary {operator : String} (hkind : kind = "LogicalExpression" ∨ kind = "BinaryExpression")
    (h : Converted ws [base]) (h' : Converted ws' [value]) :
    Converted (ws ++ ws') [binaryNode kind operator base value] := by
  have hfields := (Spelled.str operator).append (h.toSpelled.append h'.toSpelled)
  rcases hkind with rfl | rfl
  all_goals
    refine .record [] ⟨_, rfl, ?_⟩ rfl (by simp) hfields
    exact {
      known := by decide
      arrays := List.forall_mem_nil _
      parts := List.forall_mem_cons.2 ⟨h.isRecord, List.forall_mem_singleton.2 h'.isRecord⟩
      left := fun hk => absurd (by decide) hk
      promise := trivial }

/-- An operator stands before its operand and is no word. -/
theorem unary {operator : String} (h : Converted ws [value]) :
    Converted ws
      [node "UnaryExpression" [("operator", .str operator), ("argument", value)]] := by
  refine .record [] ⟨_, rfl, ?_⟩ rfl (by simp) ((Spelled.str operator).append h.toSpelled)
  exact {
    known := by decide
    arrays := List.forall_mem_nil _
    parts := List.forall_mem_singleton.2 h.isRecord
    left := fun _ => rfl
    promise := trivial }

/-- A function has the words of its name, of its parameters and of its body. -/
theorem function {isLocal : Bool} (hvalue : value = .null ∨ value.isRecord = true)
    (hid : Spelled ws [value]) (hargs : Converted ws' args) (hbody : Converted ws'' body) :
    Converted (ws ++ (ws' ++ ws'')) [functionNode value isLocal args body] := by
  refine .record [] ⟨_, rfl, ?_⟩ rfl (by simp)
    (hid.append ((Spelled.bool isLocal).append (hargs.list.append hbody.list)))
  exact {
    known := by decide
    arrays := List.forall_mem_cons.2 ⟨⟨_, rfl, hbody.records⟩,
      List.forall_mem_singleton.2 ⟨_, rfl, hargs.records⟩⟩
    parts := List.forall_mem_nil _
    left := fun _ => rfl
    promise := hvalue }

/-- An assignment has the words of its targets and then those of its values, local or not. -/
theorem assignment (hkind : kind = "LocalStatement" ∨ kind = "AssignmentStatement")
    (hargs : Converted ws args) (hbody : Converted ws' body) :
    Converted (ws ++ ws') [node kind [("variables", .list args), ("init", .list body)]] := by
  have hfields := hargs.list.append hbody.list
  have harrays : ∀ key ∈ ["variables", "init"], ∃ items,
      (node kind [("variables", .list args), ("init", .list body)]).get? key =
        some (.list items) ∧ ∀ w ∈ items, w.isRecord = true :=
    List.forall_mem_cons.2 ⟨⟨_, rfl, hargs.records⟩,
      List.forall_mem_singleton.2 ⟨_, rfl, hbody.records⟩⟩
  rcases hkind with rfl | rfl
  all_goals
    refine .record [] ⟨_, rfl, ?_⟩ rfl (by simp) hfields
    exact {
      known := by decide
      arrays := fun key hkey => harrays key ((by decide : arrayFields _ ⊆ _) hkey)
      parts := List.forall_mem_nil _
      left := fun _ => rfl
      promise := trivial }

/-- A call as a statement has the words of the call. -/
theorem callStatement (h : Converted ws [value]) :
    Converted ws [node "CallStatement" [("expression", value)]] := by
  refine .record [] ⟨_, rfl, ?_⟩ rfl (by simp) h.toSpelled
  exact {
    known := by decide
    arrays := List.forall_mem_nil _
    parts := List.forall_mem_singleton.2 h.isRecord
    left := fun _ => rfl
    promise := trivial }

/-- A return has the words of what is returned. -/
theorem giveBack (h : Converted ws args) :
    Converted ws [node "ReturnStatement" [("arguments", .list args)]] := by
  refine .record [] ⟨_, rfl, ?_⟩ rfl (by simp) h.list
  exact {
    known := by decide
    arrays := List.forall_mem_singleton.2 ⟨_, rfl, h.records⟩
    parts := List.forall_mem_nil _
    left := fun _ => rfl
    promise := trivial }

/-- A clause with a condition is spelled by the word it begins with, the condition and the body. -/
theorem clause {word : String}
    (hkind : kind = "IfClause" ∧ word = "if" ∨ kind = "ElseifClause" ∧ word = "elseif")
    (h : Converted ws [value]) (hbody : Converted ws' body) :
    Converted (.keyword word :: (ws ++ ws')) [clauseNode kind value body] := by
  rcases hkind with ⟨rfl, rfl⟩ | ⟨rfl, rfl⟩
  all_goals
    refine .record [.keyword _] ⟨_, rfl, ?_⟩ rfl (by simp) (h.toSpelled.append hbody.list)
    exact {
      known := by decide
      arrays := List.forall_mem_singleton.2 ⟨_, rfl, hbody.records⟩
      parts := List.forall_mem_nil _
      left := fun _ => rfl
      promise := h.isRecord }

/-- The last clause begins with its keyword. -/
theorem elseClause (hbody : Converted ws body) :
    Converted (.keyword "else" :: ws) [node "ElseClause" [("body", .list body)]] := by
  refine .record [.keyword "else"] ⟨_, rfl, ?_⟩ rfl (by simp) hbody.list
  exact {
    known := by decide
    arrays := List.forall_mem_singleton.2 ⟨_, rfl, hbody.records⟩
    parts := List.forall_mem_nil _
    left := fun _ => rfl
    promise := rfl }

/-- A choice has the words of its clauses, the first of which has the condition. -/
theorem branch {others : List Value} (h : Converted ws [value])
    (hkind : kindOf value = .str "IfClause") (hothers : Converted ws' others)
    (hlater : LaterClauses others) :
    Converted (ws ++ ws') [node "IfStatement" [("clauses", .list (value :: others))]] := by
  refine .record [] ⟨_, rfl, ?_⟩ rfl (by simp) (h.cons hothers).list
  exact {
    known := by decide
    arrays := List.forall_mem_singleton.2 ⟨_, rfl, (h.cons hothers).records⟩
    parts := List.forall_mem_nil _
    left := fun _ => rfl
    promise := .intro hkind hlater }

/-- A chunk has the words of its statements. -/
theorem chunk (h : Converted ws body) :
    Converted ws [node "Chunk" [("body", .list body)]] := by
  refine .record [] ⟨_, rfl, ?_⟩ rfl (by simp) h.list
  exact {
    known := by decide
    arrays := List.forall_mem_singleton.2 ⟨_, rfl, h.records⟩
    parts := List.forall_mem_nil _
    left := fun _ => rfl
    promise := trivial }

end Converted

end Lua

end DefUse
