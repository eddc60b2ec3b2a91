import DefUse.Lua.Node
import DefUse.Name
import DefUse.Text.Utf8

/-!
# Lua/Adapter — from a parser's syntax to the tree that is checked

The tree the checker walks is plain data, and `convert` makes it of a parser's nodes.  Each node
becomes a record with a `type` field and its parts in a fixed order.  A method call is a call whose
base is a member access with the `:` separator, and so is the name of a method; the clauses of a
conditional, which a parser gives one inside the other, become a list.

Statements that the checker has no rule for are kept by their kind alone.  A node of a class that
stands in neither list of a place is refused.
-/

namespace DefUse.Lua

/-! ## Classes looked up by their names -/

/-- The operators between two operands. -/
def binaryOperators : List (String × String) :=
  [("AddOp", "+"), ("SubOp", "-"), ("MultOp", "*"), ("FloatDivOp", "/"), ("FloorDivOp", "//"),
   ("ModOp", "%"), ("ExpoOp", "^"), ("Concat", ".."), ("BAndOp", "&"), ("BOrOp", "|"),
   ("BXorOp", "~"), ("BShiftROp", ">>"), ("BShiftLOp", "<<"), ("LessThanOp", "<"),
   ("GreaterThanOp", ">"), ("LessOrEqThanOp", "<="), ("GreaterOrEqThanOp", ">="),
   ("EqToOp", "=="), ("NotEqToOp", "~=")]

/-- The logical ones among the operators between two operands. -/
def logicalOperators : List (String × String) := [("AndLoOp", "and"), ("OrLoOp", "or")]

/-- The operators before an operand. -/
def unaryOperators : List (String × String) :=
  [("UMinusOp", "-"), ("UBNotOp", "~"), ("ULNotOp", "not"), ("ULengthOP", "#")]

/-- The statements that are kept by their kind alone. -/
def unmodelledStatements : List (String × String) :=
  [("While", "WhileStatement"), ("Repeat", "RepeatStatement"), ("Fornum", "ForNumericStatement"),
   ("Forin", "ForGenericStatement"), ("Do", "DoStatement"), ("Break", "BreakStatement"),
   ("Goto", "GotoStatement"), ("Label", "LabelStatement")]

/-! ## Records -/

/-- A node of a kind, with its other fields. -/
def node (kind : String) (fields : List (String × Value)) : Value :=
  .record (("type", .str kind) :: fields)

/-- A member access. -/
def member (base : Value) (indexer : Separator) (identifier : Value) : Value :=
  node "MemberExpression"
    [("indexer", .str indexer.text), ("base", base), ("identifier", identifier)]

/-- A call. -/
def callNode (base : Value) (arguments : List Value) : Value :=
  node "CallExpression" [("base", base), ("arguments", .list arguments)]

/-- A function, with a name or `null` in its place. -/
def functionNode (identifier : Value) (isLocal : Bool) (parameters body : List Value) : Value :=
  node "FunctionDeclaration"
    [("identifier", identifier), ("isLocal", .bool isLocal), ("parameters", .list parameters),
     ("body", .list body)]

/-- A clause that has a condition. -/
def clauseNode (kind : String) (condition : Value) (body : List Value) : Value :=
  node kind [("condition", condition), ("body", .list body)]

/-- An expression with two operands. -/
def binaryNode (kind operator : String) (left right : Value) : Value :=
  node kind [("operator", .str operator), ("left", left), ("right", right)]

/-- The value of a number. -/
def Numeral.toValue : Numeral → Value
  | whole n => .int n
  | real x => .float x

/-- The characters of a quoted text; bytes that are not UTF-8 count as replacement characters. -/
def Literal.text : Literal → String
  | bytes bs => Utf8.decodeLossy bs
  | chars s => s

/-! ## Nodes -/

/-- **Why a syntax gives no tree**: a node of a class that has no rule in a place. -/
structure Refusal where
  cls : String
  place : Place

/-- A refusal as a failure. -/
def Refusal.failure (r : Refusal) : Failure := .unsupported (.str r.cls) r.place none

/-- Refuse a node of a class that has no rule in a place. -/
def refuse {α : Type} (cls : String) (place : Place) : Except Refusal α := .error ⟨cls, place⟩

/-- A statement that is kept by its kind alone, if its class is one of those. -/
def unmodelled (cls : String) : Except Refusal Value :=
  match unmodelledStatements.lookup cls with
  | some kind => .ok (node kind [])
  | none => refuse cls .parsedStatement

mutual

/-- **The statements of a body**, without what leaves nothing. -/
def block : Body → Except Refusal (List Value)
  | .absent => .ok []
  | .block items => statements items
  | .bare items => statements items

/-- Statements one after the other. -/
def statements : List Node → Except Refusal (List Value)
  | [] => .ok []
  | n :: rest =>
    if n.isFiller then statements rest
    else do return (← statement n) :: (← statements rest)

/-- **A statement.** -/
def statement : Node → Except Refusal Value
  | .localAssign targets values => do
    return node "LocalStatement"
      [("variables", .list (← expressions targets)), ("init", .list (← initial values))]
  | .assign targets values => do
    return node "AssignmentStatement"
      [("variables", .list (← expressions targets)), ("init", .list (← expressions values))]
  | .method source name args body => do
    let identifier := member (← expression source) .colon (← expression name)
    return functionNode identifier false (← expressions args) (← block body)
  | .localFunction name args body => do
    return functionNode (← expression name) true (← expressions args) (← block body)
  | .function name args body => do
    return functionNode (← expression name) false (← expressions args) (← block body)
  | .call func args => do
    return node "CallStatement"
      [("expression", callNode (← expression func) (← expressions args))]
  | .invoke source func args => do
    let base := member (← expression source) .colon (← expression func)
    return node "CallStatement" [("expression", callNode base (← expressions args))]
  | .branch test body orelse => do
    let first := clauseNode "IfClause" (← expression test) (← block body)
    return node "IfStatement" [("clauses", .list (first :: (← clauses orelse)))]
  | .giveBack values => do
    return node "ReturnStatement" [("arguments", .list (← asList values))]
  | n => unmodelled n.cls

/-- **The clauses after the first one** of a conditional, from the outermost to the innermost. -/
def clauses : Orelse → Except Refusal (List Value)
  | .absent => .ok []
  | .elseIf test body orelse => do
    let clause := clauseNode "ElseifClause" (← expression test) (← block body)
    return clause :: (← clauses orelse)
  | .otherwise body => do return [node "ElseClause" [("body", .list (← block body))]]

/-- The values of a declaration, none if it has none. -/
def initial : Items → Except Refusal (List Value)
  | .absent => .ok []
  | .list items => expressions items

/-- The values of a `return` as a list. -/
def asList : Values → Except Refusal (List Value)
  | .absent => .ok []
  | .list items => expressions items
  | .single item => do return [← expression item]

/-- Expressions one after the other. -/
def expressions : List Node → Except Refusal (List Value)
  | [] => .ok []
  | n :: rest => do return (← expression n) :: (← expressions rest)

/-- **An expression.** -/
def expression : Node → Except Refusal Value
  | .name id => .ok (node "Identifier" [("name", .str id)])
  | .index value idx dotted => do
    let base ← expression value
    let key ← expression idx
    return if dotted then member base .dot key
      else node "IndexExpression" [("base", base), ("index", key)]
  | .invoke source func args => do
    let base := member (← expression source) .colon (← expression func)
    return callNode base (← expressions args)
  | .call func args => do return callNode (← expression func) (← expressions args)
  | .number n => .ok (node "NumericLiteral" [("value", n.toValue)])
  | .string s => .ok (node "StringLiteral" [("value", .str s.text)])
  | .trueExpr => .ok (node "BooleanLiteral" [("value", .bool true)])
  | .falseExpr => .ok (node "BooleanLiteral" [("value", .bool false)])
  | .nil => .ok (node "NilLiteral" [])
  | .varargs => .ok (node "VarargLiteral" [])
  | .dots => .ok (node "VarargLiteral" [])
  | .binary cls left right =>
    match logicalOperators.lookup cls, binaryOperators.lookup cls with
    | some operator, _ => do
      return binaryNode "LogicalExpression" operator (← expression left) (← expression right)
    | none, some operator => do
      return binaryNode "BinaryExpression" operator (← expression left) (← expression right)
    | none, none => refuse cls .parsedExpression
  | .unary cls operand =>
    match unaryOperators.lookup cls with
    | some operator => do
      return node "UnaryExpression"
        [("operator", .str operator), ("argument", ← expression operand)]
    | none => refuse cls .parsedExpression
  | .table => .ok (node "TableConstructorExpression" [])
  | .anonymousFunction args body => do
    return functionNode .null false (← expressions args) (← block body)
  | n => refuse n.cls .parsedExpression

end

/-- **The tree of a parser's syntax.** -/
def convert : Root → Except Refusal Value
  | .chunk body | .body body => do return node "Chunk" [("body", .list (← block body))]

end DefUse.Lua
