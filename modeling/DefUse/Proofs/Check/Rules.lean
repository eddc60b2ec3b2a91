import Mathlib.Logic.Basic
import Mathlib.Tactic.Tauto
import DefUse.Check.Step

/-!
# Proofs/Check/Rules — which rule gives the steps of a node

The steps of a node are decided by what it is: whether it is a record, what name it spells and what
its kind is.  Each rule is a constructor of `ExpressionRule`, `StatementRule` or `BlockRule`, and
`expressionRule`, `statementRule` and `blockRule` say that every value falls under one, so that what
holds of all steps is proved by going through the rules.

Two rules are simpler than they look.  What a call calls is checked like any other expression
(`ExpressionRule.call`), and so is an operand that is not ignored (`operandSteps_of_not_ignored`):
where an operand looks at its name first, an expression would come to the same.
-/

namespace DefUse

variable {v : Value} {s : String}

/-- **Induction on the size of a value**: what holds of a value as soon as it holds of all smaller
ones holds of all. -/
theorem Value.sizeInduction {motive : Value → Prop}
    (step : ∀ v, (∀ w, w.size < v.size → motive w) → motive v) (v : Value) : motive v :=
  (measure Value.size).wf.induction v step

/-! ## Kinds -/

@[simp] theorem Value.isText_iff : v.isText s = true ↔ v = .str s := by
  cases v <;> simp [Value.isText, Value.text?]

theorem Value.isText_eq_false_iff : v.isText s = false ↔ v ≠ .str s := by
  rw [← Bool.not_eq_true, Value.isText_iff]

@[simp] theorem Value.isNull_iff : v.isNull = true ↔ v = .null := by
  cases v <;> simp [Value.isNull]

@[simp] theorem isOneOf_str {texts : List String} :
    isOneOf texts (.str s) = decide (s ∈ texts) := by
  rw [Bool.eq_iff_iff, isOneOf, List.any_eq_true, decide_eq_true_iff]
  simp

/-- A kind that is no text is one of no texts. -/
theorem exists_of_isOneOf {texts : List String} (h : isOneOf texts v = true) :
    ∃ k ∈ texts, v = .str k := by
  obtain ⟨k, hk, hv⟩ := List.any_eq_true.1 h
  exact ⟨k, hk, Value.isText_iff.1 hv⟩

/-- Only a record has a kind that is a text. -/
theorem isRecord_of_kindOf_eq {k : String} (h : kindOf v = .str k) : v.isRecord = true :=
  isRecord_of_kind (Value.isText_iff.2 h)

theorem size_field_lt_of_kind {k : String} (h : kindOf v = .str k) (key : String) :
    (v.field key).size < v.size := Value.size_field_lt key (isRecord_of_kindOf_eq h)

theorem kindOf_of_not_isRecord (h : v.isRecord = false) : kindOf v = .null := by
  cases v with
  | record fields => simp [Value.isRecord] at h
  | _ => rfl

/-! ## Names -/

/-- **The rules of names**: what a value spells, by what it is. -/
inductive NameRule (v : Value) : Except Failure (Option String) → Prop
  | identifier {n : String} (hk : kindOf v = .str "Identifier") (hn : v.field "name" = .str n)
      (hne : n ≠ "") : NameRule v (.ok (some n))
  | nameless (hk : kindOf v = .str "Identifier") (hn : ∀ n, v.field "name" = .str n → n = "") :
      NameRule v (.error (.namelessIdentifier v))
  | unknownIndexer (hk : kindOf v = .str "MemberExpression")
      (hs : Separator.ofValue? (v.field "indexer") = none) :
      NameRule v (.error (.unknownIndexer (v.field "indexer")))
  | member {sep : Separator} (hk : kindOf v = .str "MemberExpression")
      (hs : Separator.ofValue? (v.field "indexer") = some sep) :
      NameRule v (joinLinks sep (joinedName (v.field "base")) (joinedName (v.field "identifier")))
  | other (hi : kindOf v ≠ .str "Identifier") (hm : kindOf v ≠ .str "MemberExpression") :
      NameRule v (.ok none)

/-- Every value falls under a rule of names. -/
theorem nameRule (v : Value) : NameRule v (joinedName v) := by
  rw [joinedName]
  split
  · rename_i hk
    have hk := Value.isText_iff.1 hk
    unfold identifierName
    split
    · rename_i n hn
      split
      · rename_i hempty
        exact .nameless hk fun m hm => Value.str.inj (hm.symm.trans hn) ▸ hempty
      · exact .identifier hk hn ‹_›
    · rename_i hn
      exact .nameless hk fun m hm => absurd hm (hn m)
  · rename_i hi
    split
    · rename_i hk
      have hk := Value.isText_iff.1 hk
      split
      · exact .unknownIndexer hk ‹_›
      · exact .member hk ‹_›
    · rename_i hm
      exact .other (fun h => hi (Value.isText_iff.2 h)) fun h => hm (Value.isText_iff.2 h)

theorem joinedName_of_identifier (hk : kindOf v = .str "Identifier") :
    joinedName v = (identifierName v).map some := by
  rw [joinedName, if_pos (Value.isText_iff.2 hk)]

theorem joinedName_of_member (hk : kindOf v = .str "MemberExpression") :
    joinedName v =
      match Separator.ofValue? (v.field "indexer") with
      | none => .error (.unknownIndexer (v.field "indexer"))
      | some sep =>
        joinLinks sep (joinedName (v.field "base")) (joinedName (v.field "identifier")) := by
  rw [joinedName, if_neg (by simp [hk])]
  exact dif_pos (Value.isText_iff.2 hk)

/-- Only an identifier or a member access has a name to join. -/
theorem joinedName_of_kind_ne (hi : kindOf v ≠ .str "Identifier")
    (hm : kindOf v ≠ .str "MemberExpression") : joinedName v = .ok none := by
  rw [joinedName]
  simp [hi, hm]

/-- A member access fails with the fault of its base, or else with that of its identifier. -/
theorem joinLinks_eq_error {sep : Separator} {base leaf : Except Failure (Option String)}
    {f : Failure} (h : joinLinks sep base leaf = .error f) : base = .error f ∨ leaf = .error f := by
  rcases base with g | b <;> rcases leaf with g' | l
  · exact Or.inl h
  · exact Or.inl h
  · exact Or.inr h
  · cases b <;> cases l <;> cases h

theorem isRecord_of_joinedName_ne (h : joinedName v ≠ .ok none) : v.isRecord = true := by
  cases hr : v.isRecord with
  | true => rfl
  | false =>
    have hkind := kindOf_of_not_isRecord hr
    exact absurd (joinedName_of_kind_ne (by simp [hkind]) (by simp [hkind])) h

theorem resolve_of_error {f : Failure} (h : joinedName v = .error f) : resolve v = .error f := by
  rw [resolve, h]
  rfl

theorem resolve_of_some {n : String} (h : joinedName v = .ok (some n)) :
    resolve v = .ok (.name n) := by
  rw [resolve, h]
  rfl

theorem resolve_of_none (h : joinedName v = .ok none) :
    resolve v = .ok (if (v.field "left").isNull then .other v else .compound v) := by
  rw [resolve, h]
  rfl

/-! ## Steps of the items of a field -/

/-- The steps that the items of a field give, one after the other. -/
def stepsAt (steps : Value → List Step) (key : String) (v : Value) : List Step :=
  match v.itemsAt? key with
  | none => [.stop .notASequence]
  | some items => items.flatMap steps

theorem flatMap_attach {α : Type} (items : List Value) (f : Value → List α) :
    (items.attach.flatMap fun w => f w.1) = items.flatMap f := by
  rw [List.flatMap_subtype (g := f) fun _ _ => rfl, List.unattach_attach]

/-- …also where the recursion needs to know that they are items. -/
theorem stepsAt_attach (steps : Value → List Step) (key : String) (v : Value) :
    (match _ : v.itemsAt? key with
      | none => [Step.stop .notASequence]
      | some items => items.attach.flatMap fun w => steps w.1) = stepsAt steps key v := by
  unfold stepsAt
  split <;> simp_all

/-! ## Expressions -/

/-- The kinds of expressions that do not spell a name and are told apart from the rest. -/
def expressionKinds : List String := "MemberExpression" :: operandKinds ++ binaryKinds

/-- **The rules of expressions**: the steps of an expression, by what it is. -/
inductive ExpressionRule (v : Value) : List Step → Prop
  | value (hr : v.isRecord = false) : ExpressionRule v [.stop (.notANode v)]
  | fault {f : Failure} (h : joinedName v = .error f) : ExpressionRule v [.stop f]
  | name {n : String} (h : joinedName v = .ok (some n)) : ExpressionRule v [.use n]
  | call (hk : kindOf v = .str "CallExpression") :
      ExpressionRule v (expressionSteps (v.field "base") ++ stepsAt expressionSteps "arguments" v)
  | notAKey (hk : isKey (kindOf v) = false) : ExpressionRule v [.stop .kindNotAKey]
  | literal {k : String} (hk : kindOf v = .str k) (hmem : k ∈ literalKinds) : ExpressionRule v []
  | binary {k : String} (hk : kindOf v = .str k) (hmem : k ∈ binaryKinds) :
      ExpressionRule v (operandSteps (v.field "left") ++ operandSteps (v.field "right"))
  | unary (hk : kindOf v = .str "UnaryExpression") :
      ExpressionRule v (expressionSteps (v.field "argument"))
  | member (h : joinedName v = .ok none) (hk : kindOf v = .str "MemberExpression") :
      ExpressionRule v
        [.stop (.unsupported (kindOf v) .expression (some (kindOf (v.field "base"))))]
  | unknown (hr : v.isRecord = true) (h : joinedName v = .ok none)
      (hk : ∀ k ∈ expressionKinds, kindOf v ≠ .str k) :
      ExpressionRule v [.stop (.unsupported (kindOf v) .expression none)]

/-- A value that is no record is no expression. -/
theorem expressionSteps_of_not_isRecord (hr : v.isRecord = false) :
    expressionSteps v = [.stop (.notANode v)] := by
  rw [expressionSteps, dif_neg (by simp [hr])]

theorem expressionSteps_of_error {f : Failure} (h : joinedName v = .error f) :
    expressionSteps v = [.stop f] := by
  have hr : v.isRecord = true := isRecord_of_joinedName_ne (by simp [h])
  rw [expressionSteps, dif_pos hr, resolve_of_error h]

theorem expressionSteps_of_some {n : String} (h : joinedName v = .ok (some n)) :
    expressionSteps v = [.use n] := by
  have hr : v.isRecord = true := isRecord_of_joinedName_ne (by simp [h])
  rw [expressionSteps, dif_pos hr, resolve_of_some h]

/-- Looking at the name of a value before it is checked comes to the same as checking it. -/
theorem steps_of_resolve (v : Value) :
    (match resolve v with
      | .error f => [Step.stop f]
      | .ok (.name n) => [.use n]
      | .ok _ => expressionSteps v) = expressionSteps v := by
  cases h : joinedName v with
  | error f => rw [resolve_of_error h, expressionSteps_of_error h]
  | ok name =>
    cases name with
    | some n => rw [resolve_of_some h, expressionSteps_of_some h]
    | none =>
      rw [resolve_of_none h]
      cases (v.field "left").isNull <;> rfl

/-- The rule for what spells no name, as one choice by the kind. -/
theorem expressionSteps_of_none (hr : v.isRecord = true) (h : joinedName v = .ok none) :
    expressionSteps v =
      if (kindOf v).isText "CallExpression" then
        expressionSteps (v.field "base") ++ stepsAt expressionSteps "arguments" v
      else if !isKey (kindOf v) then [.stop .kindNotAKey]
      else if isOneOf literalKinds (kindOf v) then []
      else if isOneOf binaryKinds (kindOf v) then
        operandSteps (v.field "left") ++ operandSteps (v.field "right")
      else if (kindOf v).isText "UnaryExpression" then expressionSteps (v.field "argument")
      else if (kindOf v).isText "MemberExpression" then
        [.stop (.unsupported (kindOf v) .expression (some (kindOf (v.field "base"))))]
      else [.stop (.unsupported (kindOf v) .expression none)] := by
  have hcall := congrArg₂ (· ++ ·) (steps_of_resolve (v.field "base"))
    (stepsAt_attach expressionSteps "arguments" v)
  rw [expressionSteps, dif_pos hr, resolve_of_none h, ← hcall]
  cases (v.field "left").isNull <;> rfl

theorem expressionRule_of_none (hr : v.isRecord = true) (h : joinedName v = .ok none) :
    ExpressionRule v (expressionSteps v) := by
  rw [expressionSteps_of_none hr h]
  split
  · exact .call (Value.isText_iff.1 ‹_›)
  · split
    · exact .notAKey (by simpa using ‹(!isKey (kindOf v)) = true›)
    · split
      · obtain ⟨k, hmem, hk⟩ := exists_of_isOneOf ‹_›
        exact .literal hk hmem
      · split
        · obtain ⟨k, hmem, hk⟩ := exists_of_isOneOf ‹_›
          exact .binary hk hmem
        · split
          · exact .unary (Value.isText_iff.1 ‹_›)
          · split
            · exact .member h (Value.isText_iff.1 ‹_›)
            · rename_i hcall _ hlit hbin hun hmember
              refine .unknown hr h fun k hmem hk => ?_
              simp only [hk, Value.isText_iff, isOneOf_str, decide_eq_true_eq,
                Value.str.injEq] at hcall hlit hbin hun hmember
              simp only [expressionKinds, operandKinds, List.cons_append, List.mem_cons,
                List.mem_append] at hmem
              tauto

/-- **Every value falls under a rule of expressions.** -/
theorem expressionRule (v : Value) : ExpressionRule v (expressionSteps v) := by
  cases hr : v.isRecord with
  | false =>
    rw [expressionSteps_of_not_isRecord hr]
    exact .value hr
  | true =>
    cases h : joinedName v with
    | error f =>
      rw [expressionSteps_of_error h]
      exact .fault h
    | ok name =>
      cases name with
      | some n =>
        rw [expressionSteps_of_some h]
        exact .name h
      | none => exact expressionRule_of_none hr h

/-! ## Operands -/

/-- **An operand that is ignored**: it spells no name, has no operands and is of a kind that is not
looked into. -/
structure Ignored (v : Value) : Prop where
  nameless : joinedName v = .ok none
  simple : (v.field "left").isNull = true
  isKey : isKey (kindOf v) = true
  kind : isOneOf operandKinds (kindOf v) = false

theorem operandSteps_of_ignored (h : Ignored v) : operandSteps v = [.ignore (kindOf v)] := by
  rw [operandSteps, resolve_of_none h.nameless]
  simp [h.simple, h.isKey, h.kind]

/-- **An operand that is not ignored is checked like any expression.** -/
theorem operandSteps_of_not_ignored (h : ¬ Ignored v) : operandSteps v = expressionSteps v := by
  cases hn : joinedName v with
  | error f => rw [operandSteps, resolve_of_error hn, expressionSteps_of_error hn]
  | ok name =>
    cases name with
    | some n => rw [operandSteps, resolve_of_some hn, expressionSteps_of_some hn]
    | none =>
      rw [operandSteps, resolve_of_none hn]
      cases hl : (v.field "left").isNull with
      | false => rfl
      | true =>
        simp only [if_true]
        split
        · rename_i hkey
          have hkey' : isKey (kindOf v) = false := by simpa using hkey
          have hr : v.isRecord = true := by
            cases hr : v.isRecord with
            | true => rfl
            | false => simp [kindOf_of_not_isRecord hr, isKey] at hkey'
          have hcall : (kindOf v).isText "CallExpression" = false := by
            cases hk : kindOf v <;> simp_all [isKey, Value.isText, Value.text?]
          rw [expressionSteps_of_none hr hn, if_neg (by simp [hcall]), if_pos hkey]
        · split
          · rfl
          · rename_i hkey hkind
            exact absurd ⟨hn, hl, by simpa using hkey, by simpa using hkind⟩ h

/-! ## Statements -/

/-- The kinds of statements there are rules for. -/
def statementKinds : List String :=
  ["LocalStatement", "AssignmentStatement", "FunctionDeclaration", "CallStatement", "IfStatement",
   "ReturnStatement"]

/-- **The rules of statements**: the steps after a statement was entered, by its kind. -/
inductive StatementRule (v : Value) : List Step → Prop
  | localNames (hk : kindOf v = .str "LocalStatement") : StatementRule v (localSteps v)
  | assignment (hk : kindOf v = .str "AssignmentStatement") : StatementRule v (assignmentSteps v)
  | function (hk : kindOf v = .str "FunctionDeclaration") :
      StatementRule v (functionNameSteps v ++ [.function (parameterSteps v ++ blockSteps v)])
  | call (hk : kindOf v = .str "CallStatement") :
      StatementRule v (expressionSteps (v.field "expression"))
  | choice (hk : kindOf v = .str "IfStatement") :
      StatementRule v (stepsAt clauseSteps "clauses" v)
  | result (hk : kindOf v = .str "ReturnStatement") :
      StatementRule v (stepsAt expressionSteps "arguments" v)
  | unknown (hk : ∀ k ∈ statementKinds, kindOf v ≠ .str k) :
      StatementRule v [.stop (.unsupported (kindOf v) .statement none)]

/-- The rule for a statement, as one choice by the kind. -/
theorem statementSteps_eq (v : Value) :
    statementSteps v = .enter (kindOf v) ::
      if (kindOf v).isText "LocalStatement" then localSteps v
      else if (kindOf v).isText "AssignmentStatement" then assignmentSteps v
      else if (kindOf v).isText "FunctionDeclaration" then
        functionNameSteps v ++ [.function (parameterSteps v ++ blockSteps v)]
      else if (kindOf v).isText "CallStatement" then expressionSteps (v.field "expression")
      else if (kindOf v).isText "IfStatement" then stepsAt clauseSteps "clauses" v
      else if (kindOf v).isText "ReturnStatement" then stepsAt expressionSteps "arguments" v
      else [.stop (.unsupported (kindOf v) .statement none)] := by
  rw [statementSteps, ← stepsAt_attach clauseSteps]
  rfl

/-- **Every value falls under a rule of statements.** -/
theorem statementRule (v : Value) :
    ∃ steps, statementSteps v = .enter (kindOf v) :: steps ∧ StatementRule v steps := by
  refine ⟨_, statementSteps_eq v, ?_⟩
  split
  · exact .localNames (Value.isText_iff.1 ‹_›)
  · split
    · exact .assignment (Value.isText_iff.1 ‹_›)
    · split
      · exact .function (Value.isText_iff.1 ‹_›)
      · split
        · exact .call (Value.isText_iff.1 ‹_›)
        · split
          · exact .choice (Value.isText_iff.1 ‹_›)
          · split
            · exact .result (Value.isText_iff.1 ‹_›)
            · rename_i h₁ h₂ h₃ h₄ h₅ h₆
              refine .unknown fun k hmem hk => ?_
              simp only [hk, Value.isText_iff, Value.str.injEq] at h₁ h₂ h₃ h₄ h₅ h₆
              simp only [statementKinds, List.mem_cons, List.not_mem_nil] at hmem
              tauto

/-! ## Blocks and clauses -/

/-- The rules of blocks. -/
inductive BlockRule (v : Value) : List Step → Prop
  | body {items : List Value} (h : v.get? "body" = some (.list items)) :
      BlockRule v (items.flatMap statementSteps)
  | noBody (h : ∀ items, v.get? "body" ≠ some (.list items)) :
      BlockRule v [.stop (.noBody (kindOf v))]

/-- Every value falls under a rule of blocks. -/
theorem blockRule (v : Value) : BlockRule v (blockSteps v) := by
  rw [blockSteps]
  split
  · rename_i items h
    rw [flatMap_attach]
    exact .body h
  · exact .noBody ‹_›

theorem blockSteps_of_body {items : List Value} (h : v.get? "body" = some (.list items)) :
    blockSteps v = items.flatMap statementSteps := by
  have hrule := blockRule v
  generalize blockSteps v = steps at hrule
  cases hrule with
  | body hbody =>
    obtain rfl := Value.list.inj (Option.some.inj (h.symm.trans hbody))
    rfl
  | noBody hbody => exact absurd h (hbody items)

theorem blockSteps_of_no_body (h : ∀ items, v.get? "body" ≠ some (.list items)) :
    blockSteps v = [.stop (.noBody (kindOf v))] := by
  have hrule := blockRule v
  generalize blockSteps v = steps at hrule
  cases hrule with
  | body hbody => exact absurd hbody (h _)
  | noBody => rfl

theorem clauseSteps_of_not_isRecord (hr : v.isRecord = false) :
    clauseSteps v = [.stop .clauseNotANode] := by
  rw [clauseSteps, if_neg (by simp [hr])]

theorem clauseSteps_of_isRecord (hr : v.isRecord = true) :
    clauseSteps v =
      (if (v.field "condition").isNull then [] else expressionSteps (v.field "condition")) ++
        blockSteps v := by
  rw [clauseSteps, if_pos hr]

end DefUse
