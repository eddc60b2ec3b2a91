import DefUse.Value.Display

/-!
# Failure — why a walk over a tree ends early

Findings are data and never end a walk.  What ends it is a tree that breaks the shape its nodes
promise, a construct there is no rule for, or a request that does not fit the open scopes.  Each is
a `Failure`.  Most are reported with a message (`Failure.message?`); the rest mean that a field was
used as something it is not, and have no message of their own.
-/

namespace DefUse

/-- The places a construct can stand in: those of a tree, and those of a parser's syntax. -/
inductive Place where
  | statement
  | expression
  | localVariable
  | assignmentTarget
  | functionName
  | parameter
  | parsedStatement
  | parsedExpression
  deriving DecidableEq, Repr

/-- The words for a place. -/
def Place.text : Place → String
  | statement => "statement"
  | expression => "expression"
  | localVariable => "local variable"
  | assignmentTarget => "assignment target"
  | functionName => "function name"
  | parameter => "parameter"
  | parsedStatement => "luaparser statement"
  | parsedExpression => "luaparser expression"

/-- **Why a walk, or a request to the scopes, ends early.** -/
inductive Failure where
  /-- An identifier whose name is no text or an empty one. -/
  | namelessIdentifier (node : Value)
  /-- A member access whose separator is neither `.` nor `:`. -/
  | unknownIndexer (indexer : Value)
  /-- A node, given by its kind, that should hold statements and has no list of them. -/
  | noBody (kind : Value)
  /-- An expression that is no node. -/
  | notANode (value : Value)
  /-- A depth that is no whole number. -/
  | depthNotANumber (value : Value)
  /-- A depth at which no scope is open. -/
  | depthNotOpen (depth current : Int)
  /-- The attempt to close the global scope. -/
  | globalScope
  /-- As many scopes of definitions as of uses were expected. -/
  | outOfStep (defined used : Nat)
  /-- A function whose scope did not open right below the depth it stands at. -/
  | misplacedScope (depth : Int) (opened : Int)
  /-- A second walk over the same tree. -/
  | secondWalk
  /-- A construct there is no rule for, by its kind; `base` is the kind of a member access's base
  when that is what has no rule. -/
  | unsupported (kind : Value) (place : Place) (base : Option Value)
  /-- A field that is gone through item by item and has no items, or has no length. -/
  | notASequence
  /-- A kind that is a list or a record, where it is looked up in a table of kinds. -/
  | kindNotAKey
  /-- A clause that is no node. -/
  | clauseNotANode
  /-- A record in the place of a list, asked for its first item. -/
  | recordNotIndexed
  /-- No scope of uses left to close. -/
  | noUsesLeft

namespace Failure

/-- **The message of a failure that is reported**, nothing for one that is not. -/
def message? : Failure → Option String
  | namelessIdentifier node => some s!"Identifier node without a name: {node.display}"
  | unknownIndexer indexer => some s!"Cannot parse member expression indexer {indexer.display}"
  | noBody kind => some s!"Node {kind.display} has no statement body"
  | notANode value => some s!"Cannot check expression of non-node type {value.typeName}"
  | depthNotANumber value => some s!"Cannot handle non-numeric depth of type {value.typeName}"
  | depthNotOpen depth current =>
    some s!"Depth index {depth} not on the stack, current depth is {current}"
  | globalScope => some "Cannot remove the global scope"
  | outOfStep defined used =>
    some s!"Defined stack length {defined} out of sync with used stack length {used}"
  | misplacedScope depth opened =>
    some s!"Function at depth {depth} opened scope {opened}; scope stack out of step"
  | secondWalk => some "Verifier instances analyse a single tree; create a new one"
  | unsupported kind place none => some s!"No {place.text} rule for node type '{kind.plain}'"
  | unsupported kind place (some base) =>
    some (s!"No {place.text} rule for member access whose base is a {base.plain} " ++
      s!"(node type '{kind.plain}')")
  | notASequence | kindNotAKey | clauseNotANode | recordNotIndexed | noUsesLeft => none

end Failure

end DefUse
