import DefUse.Name

/-!
# Check/Step — what a tree asks for, independent of any state

A walk over a tree comes down to a list of steps: names declared, defined, used and assigned,
members derived, function bodies entered, and the point at which the walk has to stop.  The list
depends on the tree alone.  What the steps do to the scopes and the findings is the matter of
`Check/Session`, and nothing after a step that stops the walk is ever looked at.

Statements, expressions and operands of binary expressions each have their own rules:
`statementSteps`, `expressionSteps` and `operandSteps`.
-/

namespace DefUse

/-- **A step of a walk.** -/
inductive Step where
  /-- A statement of a kind is entered. -/
  | enter (kind : Value)
  /-- An operand of a kind that records nothing. -/
  | ignore (kind : Value)
  | declare (name : String) (isLocal : Bool)
  | define (name : String) (isLocal : Bool)
  | use (name : String)
  | assign (name : String)
  /-- A name gains the members that a call gives it. -/
  | derive (name callee : String)
  /-- A function body, in a scope of its own that is closed whatever happens in it. -/
  | function (body : List Step)
  /-- The walk stops. -/
  | stop (failure : Failure)

namespace Step

/-- The step for a name that is needed, or the stop if there is none. -/
def ofName (step : String → Step) : Except Failure String → Step
  | .ok n => step n
  | .error f => .stop f

end Step

/-! ## Kinds -/

/-- Whether a kind can be looked up in a table of kinds: a list or a record can not. -/
def isKey : Value → Bool
  | .list _ | .record _ => false
  | _ => true

/-- Whether a value is one of some texts. -/
def isOneOf (texts : List String) (v : Value) : Bool := texts.any (v.isText ·)

/-- The kinds of literals, which record nothing. -/
def literalKinds : List String :=
  ["NumericLiteral", "BooleanLiteral", "NilLiteral", "StringLiteral", "VarargLiteral"]

/-- The kinds of expressions with two operands. -/
def binaryKinds : List String := ["BinaryExpression", "LogicalExpression"]

/-- The kinds of operands, apart from names and compound ones, that are checked like expressions. -/
def operandKinds : List String := "CallExpression" :: "UnaryExpression" :: literalKinds

/-! ## Parts of statements -/

/-- The names a list of nodes spells, each needed in a place. -/
def requireNames (place : Place) : List Value → Except Failure (List String)
  | [] => .ok []
  | v :: rest => do return (← requireName place v) :: (← requireNames place rest)

/-- The names of the variables of a local declaration. -/
def localNames (v : Value) : Except Failure (List String) :=
  match v.itemsAt? "variables" with
  | none => .error .notASequence
  | some items => requireNames .localVariable items

/-- The call that gives a local declaration its one value, by the name of what is called. -/
def calleeOf (value : Value) : Except Failure (Option String) :=
  if (kindOf value).isText "CallExpression" then joinedName (value.field "base") else .ok none

/-- The members that declared names gain from the value they are given. -/
def derivedSteps (names : List String) (value : Value) : List Step :=
  match calleeOf value with
  | .error f => [.stop f]
  | .ok none => []
  | .ok (some callee) => names.map (.derive · callee)

/-- The members that declared names gain from their values: only a single one gives any.  A record
that holds one field has a length but no first item. -/
def initialSteps (names : List String) (v : Value) : List Step :=
  match v.get? "init" with
  | none => []
  | some (.record [_]) => [.stop .recordNotIndexed]
  | some (.list [value]) => derivedSteps names value
  | some _ => []

/-- The steps of an assignment. -/
def assignmentSteps (v : Value) : List Step :=
  match v.itemsAt? "variables" with
  | none => [.stop .notASequence]
  | some items => items.map fun w => .ofName .assign (requireName .assignmentTarget w)

/-- Whether a function's name makes it a method. -/
def isMethodName (name : Value) : Bool :=
  (kindOf name).isText "MemberExpression" && (name.field "indexer").isText ":"

/-- The steps for the name of a function; nothing for a function without one. -/
def functionNameSteps (v : Value) : List Step :=
  let name := v.field "identifier"
  let isLocal := (v.field "isLocal").truthy
  if name.isNull then []
  else
    match requireName .functionName name with
    | .ok n => [.declare n isLocal, .define n isLocal]
    | .error f => [.stop f]

/-- The steps for the parameters of a function, in its scope.  A method has `self` before them. -/
def parameterSteps (v : Value) : List Step :=
  let self := if isMethodName (v.field "identifier") then [.define "self" true] else []
  self ++
    match v.itemsAt? "parameters" with
    | none => [.stop .notASequence]
    | some items =>
      (items.filter fun w => !(kindOf w).isText "VarargLiteral").map fun w =>
        .ofName (.define · true) (requireName .parameter w)

/-! ## Expressions -/

mutual

/-- **The steps of an expression.** -/
def expressionSteps (v : Value) : List Step :=
  if _ : v.isRecord then
    match resolve v with
    | .error f => [.stop f]
    | .ok (.name n) => [.use n]
    | .ok _ =>
      let kind := kindOf v
      if kind.isText "CallExpression" then
        (match resolve (v.field "base") with
          | .error f => [.stop f]
          | .ok (.name n) => [.use n]
          | .ok _ => expressionSteps (v.field "base")) ++
        match _ : v.itemsAt? "arguments" with
        | none => [.stop .notASequence]
        | some items => items.attach.flatMap fun w => expressionSteps w.1
      else if !isKey kind then [.stop .kindNotAKey]
      else if isOneOf literalKinds kind then []
      else if isOneOf binaryKinds kind then
        operandSteps (v.field "left") ++ operandSteps (v.field "right")
      else if kind.isText "UnaryExpression" then expressionSteps (v.field "argument")
      else if kind.isText "MemberExpression" then
        [.stop (.unsupported kind .expression (some (kindOf (v.field "base"))))]
      else [.stop (.unsupported kind .expression none)]
  else [.stop (.notANode v)]
termination_by 2 * v.size
decreasing_by
  · have := Value.size_field_lt "base" ‹v.isRecord = true›
    omega
  · have := Value.size_itemsAt_lt "arguments" ‹v.itemsAt? "arguments" = some items› w.2
    omega
  · have := Value.size_field_lt "left" ‹v.isRecord = true›
    omega
  · have := Value.size_field_lt "right" ‹v.isRecord = true›
    omega
  · have := Value.size_field_lt "argument" ‹v.isRecord = true›
    omega

/-- **The steps of an operand.**  An operand of a kind that is not looked into is ignored. -/
def operandSteps (v : Value) : List Step :=
  match resolve v with
  | .error f => [.stop f]
  | .ok (.name n) => [.use n]
  | .ok (.compound _) => expressionSteps v
  | .ok (.other _) =>
    let kind := kindOf v
    if !isKey kind then [.stop .kindNotAKey]
    else if isOneOf operandKinds kind then expressionSteps v
    else [.ignore kind]
termination_by 2 * v.size + 1

end

/-- The steps of the expressions in a field. -/
def expressionsAt (key : String) (v : Value) : List Step :=
  match v.itemsAt? key with
  | none => [.stop .notASequence]
  | some items => items.flatMap expressionSteps

/-- The steps of a local declaration: its names, the members they gain, then its values. -/
def localSteps (v : Value) : List Step :=
  match localNames v with
  | .error f => [.stop f]
  | .ok names =>
    names.flatMap (fun n => [.declare n true, .define n true]) ++
      initialSteps names v ++ expressionsAt "init" v

/-! ## Statements -/

mutual

/-- **The steps of a statement.** -/
def statementSteps (v : Value) : List Step :=
  let kind := kindOf v
  .enter kind ::
    if kind.isText "LocalStatement" then localSteps v
    else if kind.isText "AssignmentStatement" then assignmentSteps v
    else if kind.isText "FunctionDeclaration" then
      functionNameSteps v ++ [.function (parameterSteps v ++ blockSteps v)]
    else if kind.isText "CallStatement" then expressionSteps (v.field "expression")
    else if kind.isText "IfStatement" then
      match _ : v.itemsAt? "clauses" with
      | none => [.stop .notASequence]
      | some items => items.attach.flatMap fun w => clauseSteps w.1
    else if kind.isText "ReturnStatement" then expressionsAt "arguments" v
    else [.stop (.unsupported kind .statement none)]
termination_by 2 * v.size + 1
decreasing_by
  · omega
  · have := Value.size_itemsAt_lt "clauses" ‹v.itemsAt? "clauses" = some items› w.2
    omega

/-- The steps of a clause: its condition, if it has one, and its statements. -/
def clauseSteps (v : Value) : List Step :=
  if v.isRecord then
    (if (v.field "condition").isNull then [] else expressionSteps (v.field "condition")) ++
      blockSteps v
  else [.stop .clauseNotANode]
termination_by 2 * v.size + 1

/-- The steps of the statements a node holds. -/
def blockSteps (v : Value) : List Step :=
  match _ : v.get? "body" with
  | some (.list items) => items.attach.flatMap fun w => statementSteps w.1
  | _ => [.stop (.noBody (kindOf v))]
termination_by 2 * v.size
decreasing_by
  have h : v.itemsAt? "body" = some items := by simp [Value.itemsAt?, Value.items?, *]
  have := Value.size_itemsAt_lt "body" h w.2
  omega

end

end DefUse
