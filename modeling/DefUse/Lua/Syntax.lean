import DefUse.Lua.Token

/-!
# Lua/Syntax — operators, parameters and chains

What the grammar puts nodes together from: the operators with how tightly they bind, the parameters
and the name of a function, and the suffixes of a chain of accesses and calls.  Parentheses leave
nothing behind.
-/

namespace DefUse.Lua

/-- The operators between two operands. -/
inductive BinaryOp where
  | or | and
  | lt | gt | le | ge | ne | eq
  | bor | bxor | band
  | shl | shr
  | concat
  | add | sub
  | mul | div | floorDiv | mod
  | pow
  deriving DecidableEq, Repr

namespace BinaryOp

/-- The spelling of an operator. -/
def symbol : BinaryOp → String
  | or => "or" | and => "and"
  | lt => "<" | gt => ">" | le => "<=" | ge => ">=" | ne => "~=" | eq => "=="
  | bor => "|" | bxor => "~" | band => "&"
  | shl => "<<" | shr => ">>"
  | concat => ".."
  | add => "+" | sub => "-"
  | mul => "*" | div => "/" | floorDiv => "//" | mod => "%"
  | pow => "^"

/-- How tightly an operator binds. -/
def level : BinaryOp → Nat
  | or => 1
  | and => 2
  | lt | gt | le | ge | ne | eq => 3
  | bor => 4
  | bxor => 5
  | band => 6
  | shl | shr => 7
  | concat => 8
  | add | sub => 9
  | mul | div | floorDiv | mod => 10
  | pow => 12

/-- Whether a chain of the operator groups to the right. -/
def groupsRight : BinaryOp → Bool
  | concat | pow => true
  | _ => false

/-- The class of the operator's nodes. -/
def cls : BinaryOp → String
  | or => "OrLoOp" | and => "AndLoOp"
  | lt => "LessThanOp" | gt => "GreaterThanOp" | le => "LessOrEqThanOp"
  | ge => "GreaterOrEqThanOp" | ne => "NotEqToOp" | eq => "EqToOp"
  | bor => "BOrOp" | bxor => "BXorOp" | band => "BAndOp"
  | shl => "BShiftLOp" | shr => "BShiftROp"
  | concat => "Concat"
  | add => "AddOp" | sub => "SubOp"
  | mul => "MultOp" | div => "FloatDivOp" | floorDiv => "FloorDivOp" | mod => "ModOp"
  | pow => "ExpoOp"

/-- Every operator between two operands. -/
def all : List BinaryOp :=
  [or, and, lt, gt, le, ge, ne, eq, bor, bxor, band, shl, shr, concat, add, sub, mul, div, floorDiv,
   mod, pow]

/-- The operator a token spells. -/
def ofToken? : Token → Option BinaryOp
  | .symbol s => all.find? (·.symbol = s)
  | .keyword s => all.find? (·.symbol = s)
  | _ => none

end BinaryOp

/-- The operators before an operand. -/
inductive UnaryOp where
  | neg | bnot | not | len
  deriving DecidableEq, Repr

namespace UnaryOp

/-- The spelling of an operator. -/
def symbol : UnaryOp → String
  | neg => "-" | bnot => "~" | not => "not" | len => "#"

/-- The class of the operator's nodes. -/
def cls : UnaryOp → String
  | neg => "UMinusOp" | bnot => "UBNotOp" | not => "ULNotOp" | len => "ULengthOP"

/-- How tightly an operator before its operand binds: looser than a power, tighter than the rest. -/
def level : Nat := 11

/-- Every operator before an operand. -/
def all : List UnaryOp := [neg, bnot, not, len]

/-- The operator a token spells. -/
def ofToken? : Token → Option UnaryOp
  | .symbol s => all.find? (·.symbol = s)
  | .keyword s => all.find? (·.symbol = s)
  | _ => none

end UnaryOp

/-- The parameters of a function: names, and whether more arguments may follow them. -/
structure Params where
  names : List String
  variadic : Bool
  deriving DecidableEq, Repr, Inhabited

/-- The nodes of the parameters of a function. -/
def Params.nodes (p : Params) : List Node :=
  p.names.map .name ++ if p.variadic then [.varargs] else []

/-- The name in a function declaration: `head.field₁.….fieldₙ:method`. -/
structure FunctionName where
  head : String
  fields : List String
  method : Option String
  deriving DecidableEq, Repr, Inhabited

/-- A field of what a node stands for. -/
def Node.field (n : Node) (id : String) : Node := .index n (.name id) true

/-- What the name of a function has before its method. -/
def FunctionName.path (f : FunctionName) : Node := f.fields.foldl Node.field (.name f.head)

/-- The declaration of a function of a name. -/
def FunctionName.declare (f : FunctionName) (args : List Node) (body : Body) : Node :=
  match f.method with
  | some m => .method f.path (.name m) args body
  | none => .function f.path args body

/-- What can follow the start of a chain. -/
inductive Suffix where
  | field (id : String)
  | index (key : Node)
  | call (args : List Node)
  | invoke (method : String) (args : List Node)

namespace Suffix

/-- Whether the suffix is a call of either form. -/
def isCall : Suffix → Bool
  | call _ | invoke _ _ => true
  | _ => false

/-- The expression with the suffix after it. -/
def attach (n : Node) : Suffix → Node
  | field id => n.field id
  | index key => .index n key false
  | call args => .call n args
  | invoke method args => .invoke n (.name method) args

end Suffix

/-- **Plain calls right after a method call are dropped**, with the fields and indices that lead to
them, up to the next method call or the end.  `pending` holds the fields and indices since the last
call, the last one first. -/
def dropPlainCalls (pending : List Suffix) : List Suffix → List Suffix
  | [] => pending.reverse
  | .call _ :: rest => dropPlainCalls [] rest
  | .invoke method args :: rest => pending.reverse ++ .invoke method args :: rest
  | s :: rest => dropPlainCalls (s :: pending) rest

/-- The suffixes that count after an expression in parentheses: plain calls are dropped after a
method call that no plain call comes before. -/
def afterParens : List Suffix → List Suffix
  | [] => []
  | .call args :: rest => .call args :: rest
  | .invoke method args :: rest => .invoke method args :: dropPlainCalls [] rest
  | s :: rest => s :: afterParens rest

end DefUse.Lua
