import DefUse.Number.Double

/-!
# Lua/Node — the syntax a parser gives

A parser of Lua gives a tree of nodes, each of a class.  `Node` lists the classes with parts that
are looked at, and their parts as a parser may give them: the body of a function may be absent, a
block or a bare list, and the values of a `return` may be absent, a list or one value alone.  Any
other class is known by its name.
-/

namespace DefUse.Lua

/-- The value of a number. -/
inductive Numeral where
  | whole (n : Nat)
  | real (x : Double)
  deriving DecidableEq, Repr, Inhabited

/-- The value of a quoted text, as bytes or as characters. -/
inductive Literal where
  | bytes (bs : List UInt8)
  | chars (s : String)
  deriving DecidableEq, Repr

mutual

/-- **A node of the syntax.** -/
inductive Node where
  | semiColon
  | comment
  /-- `local a, b = 1, 2` -/
  | localAssign (targets : List Node) (values : Items)
  /-- `a, b = 1, 2` -/
  | assign (targets : List Node) (values : List Node)
  /-- `function a:b(x) … end` -/
  | method (source name : Node) (args : List Node) (body : Body)
  /-- `local function f(x) … end` -/
  | localFunction (name : Node) (args : List Node) (body : Body)
  /-- `function a.b(x) … end` -/
  | function (name : Node) (args : List Node) (body : Body)
  /-- `if a then … elseif b then … else … end` -/
  | branch (test : Node) (body : Body) (orelse : Orelse)
  /-- `return 1, 2` -/
  | giveBack (values : Values)
  | name (id : String)
  /-- `a.b` if it is written with a dot, and `a[b]` otherwise -/
  | index (value idx : Node) (dotted : Bool)
  /-- `a:b(x)` -/
  | invoke (source func : Node) (args : List Node)
  /-- `a(x)` -/
  | call (func : Node) (args : List Node)
  | number (n : Numeral)
  | string (s : Literal)
  | trueExpr
  | falseExpr
  | nil
  /-- `...` among parameters -/
  | varargs
  /-- `...` among expressions -/
  | dots
  /-- An operator between two operands, by the name of its class. -/
  | binary (cls : String) (left right : Node)
  /-- An operator before an operand, by the name of its class. -/
  | unary (cls : String) (operand : Node)
  | table
  /-- `function (x) … end` -/
  | anonymousFunction (args : List Node) (body : Body)
  /-- A node of any other class. -/
  | other (cls : String)

/-- The statements of a function or of a clause. -/
inductive Body where
  | absent
  | block (statements : List Node)
  | bare (statements : List Node)

/-- What follows the first clause of a conditional. -/
inductive Orelse where
  | absent
  | elseIf (test : Node) (body : Body) (orelse : Orelse)
  | otherwise (body : Body)

/-- The values of a declaration. -/
inductive Items where
  | absent
  | list (items : List Node)

/-- The values of a `return`. -/
inductive Values where
  | absent
  | list (items : List Node)
  | single (item : Node)

end

instance : Inhabited Node := ⟨.nil⟩

/-- **The root of the syntax**: a chunk, or the statements of one. -/
inductive Root where
  | chunk (body : Body)
  | body (body : Body)

namespace Node

/-- The name of a node's class. -/
def cls : Node → String
  | semiColon => "SemiColon"
  | comment => "Comment"
  | localAssign _ _ => "LocalAssign"
  | assign _ _ => "Assign"
  | method _ _ _ _ => "Method"
  | localFunction _ _ _ => "LocalFunction"
  | function _ _ _ => "Function"
  | branch _ _ _ => "If"
  | giveBack _ => "Return"
  | name _ => "Name"
  | index _ _ _ => "Index"
  | invoke _ _ _ => "Invoke"
  | call _ _ => "Call"
  | number _ => "Number"
  | string _ => "String"
  | trueExpr => "TrueExpr"
  | falseExpr => "FalseExpr"
  | nil => "Nil"
  | varargs => "Varargs"
  | dots => "Dots"
  | binary cls _ _ => cls
  | unary cls _ => cls
  | table => "Table"
  | anonymousFunction _ _ => "AnonymousFunction"
  | other cls => cls

/-- Whether the node leaves nothing in a block. -/
def isFiller : Node → Bool
  | semiColon | comment => true
  | _ => false

end Node

end DefUse.Lua
