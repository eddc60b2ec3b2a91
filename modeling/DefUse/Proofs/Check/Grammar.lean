import DefUse.Proofs.Check.Rules

/-!
# Proofs/Check/Grammar — well-shaped trees and the supported fragment

`Shaped` is what a producer of trees promises: every node is a record with a text for a kind, and
has the lists and nodes that its kind is made of.  Kinds may be anything, and what no check ever
looks at may be anything too.

`NameChain`, `Supported` and `SupportedStatement` are the grammar of what is checked to the end, one
constructor for each production.  They speak of kinds and fields alone and not of steps.
-/

namespace DefUse

variable {v w : Value} {k : String} {key : String}

/-- The items of a field, none if it is absent. -/
def Value.itemsAt (key : String) (v : Value) : List Value := (v.itemsAt? key).getD []

/-- An item of a field is smaller than the record. -/
theorem Value.size_lt_of_mem_itemsAt (h : w ∈ v.itemsAt key) : w.size < v.size := by
  unfold Value.itemsAt at h
  cases hitems : v.itemsAt? key with
  | none => simp [hitems] at h
  | some items =>
    rw [hitems] at h
    exact Value.size_itemsAt_lt key hitems h

/-! ## Shape -/

/-- The fields that hold a list of nodes, by the kind of the node they belong to. -/
def listFields : String → List String
  | "LocalStatement" => ["variables", "init"]
  | "AssignmentStatement" => ["variables"]
  | "FunctionDeclaration" => ["parameters"]
  | "IfStatement" => ["clauses"]
  | "ReturnStatement" | "CallExpression" => ["arguments"]
  | _ => []

/-- The fields that hold a node. -/
def nodeFields : String → List String
  | "CallStatement" => ["expression"]
  | "CallExpression" => ["base"]
  | "UnaryExpression" => ["argument"]
  | "BinaryExpression" | "LogicalExpression" => ["left", "right"]
  | "MemberExpression" => ["base", "identifier"]
  | _ => []

/-- The kinds of nodes that hold statements. -/
def blockKinds : List String := ["Chunk", "FunctionDeclaration"]

mutual

/-- **A well-shaped node.** -/
inductive Shaped : Value → Prop
  | node {v : Value} {k : String} (kind : kindOf v = .str k)
      (left : k ∉ binaryKinds → v.field "left" = .null)
      (name : k = "Identifier" → ∃ n, v.field "name" = .str n ∧ n ≠ "")
      (indexer : k = "MemberExpression" →
        v.field "indexer" = .str "." ∨ v.field "indexer" = .str ":")
      (lists : ∀ key ∈ listFields k, ∀ w, v.get? key = some w → ∃ items, w = .list items)
      (items : ∀ key ∈ listFields k, ∀ w ∈ v.itemsAt key, Shaped w)
      (parts : ∀ key ∈ nodeFields k, Shaped (v.field key))
      (functionName : k = "FunctionDeclaration" → v.field "identifier" ≠ .null →
        Shaped (v.field "identifier"))
      (block : k ∈ blockKinds → ShapedBlock v)
      (clauses : k = "IfStatement" → ∀ c ∈ v.itemsAt "clauses", ShapedClause c) : Shaped v

/-- A node with a list of well-shaped statements. -/
inductive ShapedBlock : Value → Prop
  | block {v : Value} (body : ∃ items, v.get? "body" = some (.list items))
      (statements : ∀ w ∈ v.itemsAt "body", Shaped w) : ShapedBlock v

/-- A clause: statements, with a condition or without one. -/
inductive ShapedClause : Value → Prop
  | clause {v : Value} (condition : v.field "condition" ≠ .null → Shaped (v.field "condition"))
      (block : ShapedBlock v) : ShapedClause v

end

namespace Shaped

/-- A shaped node has a kind, which is a text. -/
theorem exists_kind (h : Shaped v) : ∃ k, kindOf v = .str k := by
  cases h with
  | node kind => exact ⟨_, kind⟩

theorem ne_null (h : Shaped v) : v ≠ .null := by
  rintro rfl
  obtain ⟨k, hk⟩ := h.exists_kind
  cases hk

theorem isRecord (h : Shaped v) : v.isRecord = true := by
  obtain ⟨k, hk⟩ := h.exists_kind
  exact isRecord_of_kindOf_eq hk

/-- Only operators with two operands have something on their left. -/
theorem left_eq_null (h : Shaped v) (hk : ∀ k ∈ binaryKinds, kindOf v ≠ .str k) :
    v.field "left" = .null := by
  cases h with
  | node kind left => exact left fun hmem => hk _ hmem kind

/-- An identifier has a name that is not empty. -/
theorem exists_name (h : Shaped v) (hk : kindOf v = .str "Identifier") :
    ∃ n, v.field "name" = .str n ∧ n ≠ "" := by
  cases h with
  | node kind _ name => exact name (Value.str.inj (kind.symm.trans hk))

/-- A member has one of the two separators. -/
theorem exists_separator (h : Shaped v) (hk : kindOf v = .str "MemberExpression") :
    ∃ sep, Separator.ofValue? (v.field "indexer") = some sep := by
  cases h with
  | node kind _ _ indexer =>
    rcases indexer (Value.str.inj (kind.symm.trans hk)) with hi | hi
    · exact ⟨.dot, by rw [hi]; rfl⟩
    · exact ⟨.colon, by rw [hi]; rfl⟩

/-- A field that has to be a list is one, or is missing and counts as empty. -/
theorem get?_cases (h : Shaped v) (hk : kindOf v = .str k) (hkey : key ∈ listFields k) :
    v.get? key = none ∧ v.itemsAt key = [] ∨ v.get? key = some (.list (v.itemsAt key)) := by
  cases h with
  | node kind _ _ _ lists =>
    obtain rfl := Value.str.inj (hk.symm.trans kind)
    cases hget : v.get? key with
    | none => exact Or.inl ⟨rfl, by simp [Value.itemsAt, Value.itemsAt?, hget]⟩
    | some w =>
      obtain ⟨items, rfl⟩ := lists key hkey w hget
      exact Or.inr (by simp [Value.itemsAt, Value.itemsAt?, Value.items?, hget])

/-- A list of nodes has the items it is gone through by. -/
theorem itemsAt?_eq (h : Shaped v) (hk : kindOf v = .str k) (hkey : key ∈ listFields k) :
    v.itemsAt? key = some (v.itemsAt key) := by
  rcases h.get?_cases hk hkey with ⟨hget, -⟩ | hget
  · simp [Value.itemsAt, Value.itemsAt?, hget]
  · rw [Value.itemsAt?, hget]
    rfl

/-- The items of such a field are shaped. -/
theorem item (h : Shaped v) (hk : kindOf v = .str k) (hkey : key ∈ listFields k)
    (hw : w ∈ v.itemsAt key) : Shaped w := by
  cases h with
  | node kind _ _ _ _ items =>
    obtain rfl := Value.str.inj (hk.symm.trans kind)
    exact items key hkey w hw

/-- So is what is in a field that has to be a node. -/
theorem part (h : Shaped v) (hk : kindOf v = .str k) (hkey : key ∈ nodeFields k) :
    Shaped (v.field key) := by
  cases h with
  | node kind _ _ _ _ _ parts =>
    obtain rfl := Value.str.inj (hk.symm.trans kind)
    exact parts key hkey

/-- A function that has a name has a shaped one. -/
theorem functionName (h : Shaped v) (hk : kindOf v = .str "FunctionDeclaration")
    (hne : v.field "identifier" ≠ .null) : Shaped (v.field "identifier") := by
  cases h with
  | node kind _ _ _ _ _ _ functionName =>
    exact functionName (Value.str.inj (kind.symm.trans hk)) hne

/-- A kind that has a body has a shaped block. -/
theorem block (h : Shaped v) (hk : kindOf v = .str k) (hmem : k ∈ blockKinds) : ShapedBlock v := by
  cases h with
  | node kind _ _ _ _ _ _ _ block =>
    obtain rfl := Value.str.inj (hk.symm.trans kind)
    exact block hmem

/-- The clauses of a choice are shaped. -/
theorem clause (h : Shaped v) (hk : kindOf v = .str "IfStatement") (hw : w ∈ v.itemsAt "clauses") :
    ShapedClause w := by
  cases h with
  | node kind _ _ _ _ _ _ _ _ clauses => exact clauses (Value.str.inj (kind.symm.trans hk)) w hw

end Shaped

/-! ## Name chains -/

/-- **A name chain**: an identifier, or a member access over name chains. -/
inductive NameChain : Value → Prop
  | identifier {v : Value} (hk : kindOf v = .str "Identifier") : NameChain v
  | member {v : Value} (hk : kindOf v = .str "MemberExpression")
      (base : NameChain (v.field "base")) (identifier : NameChain (v.field "identifier")) :
      NameChain v

/-- A chain of names is an identifier or a member. -/
theorem NameChain.kind (h : NameChain v) :
    kindOf v = .str "Identifier" ∨ kindOf v = .str "MemberExpression" := by
  cases h with
  | identifier hk => exact Or.inl hk
  | member hk => exact Or.inr hk

/-- A member is a chain of names if both of its parts are. -/
theorem nameChain_member (hk : kindOf v = .str "MemberExpression") :
    NameChain v ↔ NameChain (v.field "base") ∧ NameChain (v.field "identifier") := by
  refine ⟨fun h => ?_, fun h => .member hk h.1 h.2⟩
  cases h with
  | identifier hi => simp [hk] at hi
  | member _ base identifier => exact ⟨base, identifier⟩

/-- A member access spells a name exactly if both its sides do. -/
theorem joinLinks_ok (sep : Separator) (base leaf : Option String) :
    ∃ o, joinLinks sep (.ok base) (.ok leaf) = .ok o ∧ (o.isSome ↔ base.isSome ∧ leaf.isSome) := by
  rcases base with _ | b <;> rcases leaf with _ | l
  · exact ⟨none, rfl, by simp⟩
  · exact ⟨none, rfl, by simp⟩
  · exact ⟨none, rfl, by simp⟩
  · exact ⟨some (b ++ sep.text ++ l), rfl, by simp⟩

/-- One rule of names on a well-shaped node, given what smaller nodes spell. -/
theorem joinedName_of_nameRule {result : Except Failure (Option String)} (h : Shaped v)
    (ih : ∀ w, w.size < v.size → Shaped w →
      ∃ o, joinedName w = .ok o ∧ (o.isSome ↔ NameChain w))
    (hrule : NameRule v result) : ∃ o, result = .ok o ∧ (o.isSome ↔ NameChain v) := by
  cases hrule with
  | identifier hk hn hne => exact ⟨_, rfl, by simpa using NameChain.identifier hk⟩
  | nameless hk hn =>
    obtain ⟨n, hname, hne⟩ := h.exists_name hk
    exact absurd (hn n hname) hne
  | unknownIndexer hk hs =>
    obtain ⟨sep, hsep⟩ := h.exists_separator hk
    cases hs.symm.trans hsep
  | @member sep hk hs =>
    obtain ⟨base, hbase, hbaseiff⟩ := ih _ (size_field_lt_of_kind hk "base")
      (h.part hk (by simp [nodeFields]))
    obtain ⟨leaf, hleaf, hleafiff⟩ := ih _ (size_field_lt_of_kind hk "identifier")
      (h.part hk (by simp [nodeFields]))
    obtain ⟨o, ho, hoiff⟩ := joinLinks_ok sep base leaf
    exact ⟨o, by rw [hbase, hleaf, ho], by rw [hoiff, hbaseiff, hleafiff, nameChain_member hk]⟩
  | other hi hm => exact ⟨none, rfl, by simpa using fun hc => hc.kind.elim hi hm⟩

/-- **A well-shaped node spells a name exactly if it is a name chain**, and is never at fault. -/
theorem Shaped.joinedName (h : Shaped v) :
    ∃ o, joinedName v = .ok o ∧ (o.isSome ↔ NameChain v) := by
  induction v using Value.sizeInduction with
  | step v ih => exact joinedName_of_nameRule h ih (nameRule v)

/-! ## Expressions -/

/-- An operand of a kind that is never refused. -/
def Lenient (v : Value) : Prop := ∀ k ∈ operandKinds ++ binaryKinds, kindOf v ≠ .str k

/-- **The supported expressions.** -/
inductive Supported : Value → Prop
  | name {v : Value} (h : NameChain v) : Supported v
  | literal {v : Value} {k : String} (hk : kindOf v = .str k) (hmem : k ∈ literalKinds) :
      Supported v
  | call {v : Value} (hk : kindOf v = .str "CallExpression") (callee : Supported (v.field "base"))
      (arguments : ∀ w ∈ v.itemsAt "arguments", Supported w) : Supported v
  | unary {v : Value} (hk : kindOf v = .str "UnaryExpression")
      (argument : Supported (v.field "argument")) : Supported v
  | binary {v : Value} {k : String} (hk : kindOf v = .str k) (hmem : k ∈ binaryKinds)
      (left : ¬ Lenient (v.field "left") → Supported (v.field "left"))
      (right : ¬ Lenient (v.field "right") → Supported (v.field "right")) : Supported v

/-- A supported expression is a chain of names or of a kind that is walked. -/
theorem Supported.kind (h : Supported v) :
    NameChain v ∨ ∃ k ∈ operandKinds ++ binaryKinds, kindOf v = .str k := by
  cases h with
  | name h => exact Or.inl h
  | literal hk hmem =>
    have hoperand : ∀ k ∈ literalKinds, k ∈ operandKinds := by decide
    exact Or.inr ⟨_, List.mem_append_left _ (hoperand _ hmem), hk⟩
  | call hk => exact Or.inr ⟨_, by decide, hk⟩
  | unary hk => exact Or.inr ⟨_, by decide, hk⟩
  | binary hk hmem => exact Or.inr ⟨_, List.mem_append_right _ hmem, hk⟩

/-! What is supported, production by production. -/

/-- A call is supported if what is called and each argument is. -/
theorem supported_call (hk : kindOf v = .str "CallExpression") :
    Supported v ↔ Supported (v.field "base") ∧ ∀ w ∈ v.itemsAt "arguments", Supported w := by
  refine ⟨fun h => ?_, fun h => .call hk h.1 h.2⟩
  cases h with
  | call _ callee arguments => exact ⟨callee, arguments⟩
  | name h => rcases h.kind with hn | hn <;> simp [hk] at hn
  | literal hk' hmem => simp_all [literalKinds]
  | unary hk' => simp [hk] at hk'
  | binary hk' hmem => simp_all [binaryKinds]

theorem supported_unary (hk : kindOf v = .str "UnaryExpression") :
    Supported v ↔ Supported (v.field "argument") := by
  refine ⟨fun h => ?_, fun h => .unary hk h⟩
  cases h with
  | unary _ argument => exact argument
  | name h => rcases h.kind with hn | hn <;> simp [hk] at hn
  | literal hk' hmem => simp_all [literalKinds]
  | call hk' => simp [hk] at hk'
  | binary hk' hmem => simp_all [binaryKinds]

/-- An operator with two operands is lenient about either of them. -/
theorem supported_binary (hk : kindOf v = .str k) (hmem : k ∈ binaryKinds) :
    Supported v ↔ (Lenient (v.field "left") ∨ Supported (v.field "left")) ∧
      (Lenient (v.field "right") ∨ Supported (v.field "right")) := by
  refine ⟨fun h => ?_, fun h => .binary hk hmem h.1.resolve_left h.2.resolve_left⟩
  have hother : ∀ k' ∉ binaryKinds, kindOf v ≠ .str k' := fun k' hk' he =>
    hk' (Value.str.inj (hk.symm.trans he) ▸ hmem)
  have hliteral : ∀ k' ∈ literalKinds, k' ∉ binaryKinds := by decide
  cases h with
  | binary _ _ left right => exact ⟨or_iff_not_imp_left.2 left, or_iff_not_imp_left.2 right⟩
  | name h => exact h.kind.elim (absurd · (hother _ (by decide))) (absurd · (hother _ (by decide)))
  | literal hk' hmem' => exact absurd hk' (hother _ (hliteral _ hmem'))
  | call hk' => exact absurd hk' (hother _ (by decide))
  | unary hk' => exact absurd hk' (hother _ (by decide))

/-! ## Statements -/

/-- **The supported statements.** -/
inductive SupportedStatement : Value → Prop
  | localNames {v : Value} (hk : kindOf v = .str "LocalStatement")
      (names : ∀ w ∈ v.itemsAt "variables", NameChain w)
      (values : ∀ w ∈ v.itemsAt "init", Supported w) : SupportedStatement v
  | assignment {v : Value} (hk : kindOf v = .str "AssignmentStatement")
      (targets : ∀ w ∈ v.itemsAt "variables", NameChain w) : SupportedStatement v
  | function {v : Value} (hk : kindOf v = .str "FunctionDeclaration")
      (name : v.field "identifier" ≠ .null → NameChain (v.field "identifier"))
      (parameters : ∀ w ∈ v.itemsAt "parameters", kindOf w ≠ .str "VarargLiteral" → NameChain w)
      (body : ∀ w ∈ v.itemsAt "body", SupportedStatement w) : SupportedStatement v
  | call {v : Value} (hk : kindOf v = .str "CallStatement")
      (expression : Supported (v.field "expression")) : SupportedStatement v
  | choice {v : Value} (hk : kindOf v = .str "IfStatement")
      (conditions : ∀ c ∈ v.itemsAt "clauses", c.field "condition" ≠ .null →
        Supported (c.field "condition"))
      (bodies : ∀ c ∈ v.itemsAt "clauses", ∀ w ∈ c.itemsAt "body", SupportedStatement w) :
      SupportedStatement v
  | result {v : Value} (hk : kindOf v = .str "ReturnStatement")
      (values : ∀ w ∈ v.itemsAt "arguments", Supported w) : SupportedStatement v

/-- **A block of supported statements.** -/
def SupportedBlock (v : Value) : Prop := ∀ w ∈ v.itemsAt "body", SupportedStatement w

/-- A supported statement is of one of the six kinds. -/
theorem SupportedStatement.kind (h : SupportedStatement v) :
    ∃ k ∈ statementKinds, kindOf v = .str k := by
  cases h with
  | localNames hk | assignment hk | function hk | call hk | choice hk | result hk =>
    exact ⟨_, by decide, hk⟩

/-- Local names are chains, and their values are supported. -/
theorem supportedStatement_localNames (hk : kindOf v = .str "LocalStatement") :
    SupportedStatement v ↔ (∀ w ∈ v.itemsAt "variables", NameChain w) ∧
      ∀ w ∈ v.itemsAt "init", Supported w := by
  refine ⟨fun h => ?_, fun h => .localNames hk h.1 h.2⟩
  cases h with
  | localNames _ names values => exact ⟨names, values⟩
  | assignment hk' | function hk' | call hk' | choice hk' | result hk' => simp [hk] at hk'

/-- Targets are chains; values are not looked at. -/
theorem supportedStatement_assignment (hk : kindOf v = .str "AssignmentStatement") :
    SupportedStatement v ↔ ∀ w ∈ v.itemsAt "variables", NameChain w := by
  refine ⟨fun h => ?_, fun h => .assignment hk h⟩
  cases h with
  | assignment _ targets => exact targets
  | localNames hk' | function hk' | call hk' | choice hk' | result hk' => simp [hk] at hk'

/-- A function may have no name, and a parameter may stand for any number of them. -/
theorem supportedStatement_function (hk : kindOf v = .str "FunctionDeclaration") :
    SupportedStatement v ↔
      (v.field "identifier" ≠ .null → NameChain (v.field "identifier")) ∧
      (∀ w ∈ v.itemsAt "parameters", kindOf w ≠ .str "VarargLiteral" → NameChain w) ∧
      SupportedBlock v := by
  refine ⟨fun h => ?_, fun h => .function hk h.1 h.2.1 h.2.2⟩
  cases h with
  | function _ name parameters body => exact ⟨name, parameters, body⟩
  | localNames hk' | assignment hk' | call hk' | choice hk' | result hk' => simp [hk] at hk'

theorem supportedStatement_call (hk : kindOf v = .str "CallStatement") :
    SupportedStatement v ↔ Supported (v.field "expression") := by
  refine ⟨fun h => ?_, fun h => .call hk h⟩
  cases h with
  | call _ expression => exact expression
  | localNames hk' | assignment hk' | function hk' | choice hk' | result hk' => simp [hk] at hk'

/-- Each clause has a block, and its condition is supported if there is one. -/
theorem supportedStatement_choice (hk : kindOf v = .str "IfStatement") :
    SupportedStatement v ↔ ∀ c ∈ v.itemsAt "clauses",
      (c.field "condition" ≠ .null → Supported (c.field "condition")) ∧ SupportedBlock c := by
  refine ⟨fun h => ?_, fun h => .choice hk (fun c hc => (h c hc).1) fun c hc => (h c hc).2⟩
  cases h with
  | choice _ conditions bodies => exact fun c hc => ⟨conditions c hc, bodies c hc⟩
  | localNames hk' | assignment hk' | function hk' | call hk' | result hk' => simp [hk] at hk'

theorem supportedStatement_result (hk : kindOf v = .str "ReturnStatement") :
    SupportedStatement v ↔ ∀ w ∈ v.itemsAt "arguments", Supported w := by
  refine ⟨fun h => ?_, fun h => .result hk h⟩
  cases h with
  | result _ values => exact values
  | localNames hk' | assignment hk' | function hk' | call hk' | choice hk' => simp [hk] at hk'

end DefUse
