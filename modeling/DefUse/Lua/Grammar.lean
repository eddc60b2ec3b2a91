import DefUse.Lua.Syntax

/-!
# Lua/Grammar — from tokens to syntax

A recursive reading of the grammar.  A rule takes the tokens that are left and fails or returns
what it read and the tokens after it; rules that call each other recurse on a number that bounds
how deep the calls nest, which `parse?` takes from the length of the text.  Operators are read by
how tightly they bind.  No rule checks more than the grammar: jumps, labels and `...` are taken
anywhere.
-/

namespace DefUse.Lua

/-- A rule of the grammar. -/
abbrev Rule := StateT (List Token) Option

namespace Rule

/-- The token at the front, if there is one. -/
def peek : Rule (Option Token) := fun ts => some (ts.head?, ts)

/-- Take one token. -/
def next : Rule Token
  | [] => none
  | t :: ts => some (t, ts)

/-- Take the given token if it is at the front, and say whether it was. -/
def accept (t : Token) : Rule Bool
  | [] => some (false, [])
  | u :: ts => if u = t then some (true, ts) else some (false, u :: ts)

/-- Take the given token, which has to be at the front. -/
def expect (t : Token) : Rule Unit
  | [] => none
  | u :: ts => if u = t then some ((), ts) else none

/-- Take a name. -/
def name : Rule String
  | .name id :: ts => some (id, ts)
  | _ => none

/-- Take a reserved word. -/
def word (w : String) : Rule Unit := expect (.keyword w)

/-- Take a symbol. -/
def sign (s : String) : Rule Unit := expect (.symbol s)

end Rule

open Rule

namespace Grammar

/-- Whether a token, or the end of the text, ends a block. -/
def endsBlock : Option Token → Bool
  | none => true
  | some (.keyword w) => w = "end" || w = "else" || w = "elseif" || w = "until"
  | some _ => false

/-- Whether a token starts the arguments of a call. -/
def startsArguments : Option Token → Bool
  | some (.symbol s) => s = "(" || s = "\x7b"
  | some (.text _) => true
  | _ => false

/-- Names after the first one, each after a sign. -/
def namesAfter (sep : String) : Nat → Rule (List String)
  | 0 => failure
  | fuel + 1 => do
    if ← accept (.symbol sep) then return (← name) :: (← namesAfter sep fuel) else return []

/-- An attribute after a declared name, which leaves nothing. -/
def skipAttribute : Rule Unit := do
  if ← accept (.symbol "<") then
    let _ ← name
    sign ">"

/-- Names with attributes after the first one. -/
def declaredAfter : Nat → Rule (List String)
  | 0 => failure
  | fuel + 1 => do
    if ← accept (.symbol ",") then
      let id ← name
      skipAttribute
      return id :: (← declaredAfter fuel)
    else return []

/-- The parameters of a function, from after the opening parenthesis to the closing one. -/
def parameters : Nat → Rule Params
  | 0 => failure
  | fuel + 1 => do
    if ← accept (.symbol "...") then
      sign ")"
      return ⟨[], true⟩
    else
      let id ← name
      if ← accept (.symbol ",") then
        let more ← parameters fuel
        return ⟨id :: more.names, more.variadic⟩
      else
        sign ")"
        return ⟨[id], false⟩

/-- A parameter list with its parentheses. -/
def parameterList (fuel : Nat) : Rule Params := do
  sign "("
  if ← accept (.symbol ")") then return ⟨[], false⟩ else parameters fuel

/-- The name in a function declaration. -/
def functionName (fuel : Nat) : Rule FunctionName := do
  let head ← name
  let fields ← namesAfter "." fuel
  let method ← if ← accept (.symbol ":") then some <$> name else pure none
  return ⟨head, fields, method⟩

/-- What the start of a chain is: a name, or an expression in parentheses. -/
inductive Head where
  | name (id : String)
  | parens (e : Node)

/-- The expression a chain stands for, and whether it may be called a variable or is a call. -/
structure Chain where
  expr : Node
  assignable : Bool
  isCall : Bool

/-- Put a chain together. -/
def Chain.of (head : Head) (suffixes : List Suffix) : Chain :=
  let (start, suffixes, bare) :=
    match head with
    | .name id => (Node.name id, suffixes, true)
    | .parens e => (e, afterParens suffixes, false)
  { expr := suffixes.foldl Suffix.attach start
    assignable := (suffixes.getLast?.map (!·.isCall)).getD bare
    isCall := (suffixes.getLast?.map (·.isCall)).getD false }

mutual

/-- The statements of a block.  A `return` ends it. -/
def block : Nat → Rule (List Node)
  | 0 => failure
  | fuel + 1 => do
    let t ← peek
    if endsBlock t then return []
    else if ← accept (.symbol ";") then block fuel
    else if ← accept (.keyword "return") then
      let t ← peek
      let values ← if endsBlock t || t == some (.symbol ";") then pure [] else exprs fuel
      let _ ← accept (.symbol ";")
      if endsBlock (← peek) then return [.giveBack (.list values)] else failure
    else
      let s ← statement fuel
      return s :: (← block fuel)

/-- A statement. -/
def statement : Nat → Rule Node
  | 0 => failure
  | fuel + 1 => do
    match ← peek with
    | some (.symbol "::") =>
      sign "::"
      let _ ← name
      sign "::"
      return .other "Label"
    | some (.keyword "break") =>
      word "break"
      return .other "Break"
    | some (.keyword "goto") =>
      word "goto"
      let _ ← name
      return .other "Goto"
    | some (.keyword "do") =>
      word "do"
      let _ ← block fuel
      word "end"
      return .other "Do"
    | some (.keyword "while") =>
      word "while"
      let _ ← expr fuel 0
      word "do"
      let _ ← block fuel
      word "end"
      return .other "While"
    | some (.keyword "repeat") =>
      word "repeat"
      let _ ← block fuel
      word "until"
      let _ ← expr fuel 0
      return .other "Repeat"
    | some (.keyword "for") =>
      word "for"
      let _ ← name
      if ← accept (.symbol "=") then
        let _ ← expr fuel 0
        sign ","
        let _ ← expr fuel 0
        if ← accept (.symbol ",") then
          let _ ← expr fuel 0
        word "do"
        let _ ← block fuel
        word "end"
        return .other "Fornum"
      else
        let _ ← namesAfter "," fuel
        word "in"
        let _ ← exprs fuel
        word "do"
        let _ ← block fuel
        word "end"
        return .other "Forin"
    | some (.keyword "if") =>
      word "if"
      let condition ← expr fuel 0
      word "then"
      let body ← block fuel
      return .branch condition (.block body) (← clauses fuel)
    | some (.keyword "function") =>
      word "function"
      let id ← functionName fuel
      let params ← parameterList fuel
      let body ← block fuel
      word "end"
      return id.declare params.nodes (.block body)
    | some (.keyword "local") =>
      word "local"
      if ← accept (.keyword "function") then
        let id ← name
        let params ← parameterList fuel
        let body ← block fuel
        word "end"
        return .localFunction (.name id) params.nodes (.block body)
      else
        let first ← name
        skipAttribute
        let others ← declaredAfter fuel
        let values ← if ← accept (.symbol "=") then exprs fuel else pure []
        return .localAssign ((first :: others).map .name) (.list values)
    | _ =>
      let c ← chain fuel
      if c.isCall then return c.expr
      else if c.assignable then
        let others ← targets fuel
        sign "="
        return .assign (c.expr :: others) (← exprs fuel)
      else failure

/-- The clauses after the first one of a conditional, to its `end`. -/
def clauses : Nat → Rule Orelse
  | 0 => failure
  | fuel + 1 => do
    if ← accept (.keyword "elseif") then
      let condition ← expr fuel 0
      word "then"
      let body ← block fuel
      return .elseIf condition (.block body) (← clauses fuel)
    else if ← accept (.keyword "else") then
      let body ← block fuel
      word "end"
      return .otherwise (.block body)
    else
      word "end"
      return .absent

/-- The targets of an assignment after the first one. -/
def targets : Nat → Rule (List Node)
  | 0 => failure
  | fuel + 1 => do
    if ← accept (.symbol ",") then
      let c ← chain fuel
      if c.assignable then return c.expr :: (← targets fuel) else failure
    else return []

/-- One expression or more, with commas between them. -/
def exprs : Nat → Rule (List Node)
  | 0 => failure
  | fuel + 1 => do
    let e ← expr fuel 0
    if ← accept (.symbol ",") then return e :: (← exprs fuel) else return [e]

/-- An expression whose operators all bind as tightly as a level or tighter. -/
def expr : Nat → Nat → Rule Node
  | 0, _ => failure
  | fuel + 1, least => do
    let e ← operand fuel
    operators fuel least e

/-- The operators after an operand, as long as they bind tightly enough. -/
def operators : Nat → Nat → Node → Rule Node
  | 0, _, _ => failure
  | fuel + 1, least, left => do
    match (← peek).bind BinaryOp.ofToken? with
    | some op =>
      if least ≤ op.level then
        let _ ← next
        let right ← expr fuel (if op.groupsRight then op.level else op.level + 1)
        operators fuel least (.binary op.cls left right)
      else return left
    | none => return left

/-- An operand, with the operators before it. -/
def operand : Nat → Rule Node
  | 0 => failure
  | fuel + 1 => do
    match (← peek).bind UnaryOp.ofToken? with
    | some op =>
      let _ ← next
      return .unary op.cls (← expr fuel UnaryOp.level)
    | none =>
      match ← peek with
      | some (.keyword "nil") =>
        word "nil"
        return .nil
      | some (.keyword "true") =>
        word "true"
        return .trueExpr
      | some (.keyword "false") =>
        word "false"
        return .falseExpr
      | some (.numeral n) =>
        let _ ← next
        return .number n
      | some (.text s) =>
        let _ ← next
        return .string (.chars s)
      | some (.symbol "...") =>
        sign "..."
        return .dots
      | some (.symbol "\x7b") =>
        sign "\x7b"
        fields fuel
        return .table
      | some (.keyword "function") =>
        word "function"
        let params ← parameterList fuel
        let body ← block fuel
        word "end"
        return .anonymousFunction params.nodes (.block body)
      | _ => return (← chain fuel).expr

/-- A chain: a name or an expression in parentheses, and its suffixes. -/
def chain : Nat → Rule Chain
  | 0 => failure
  | fuel + 1 => do
    if ← accept (.symbol "(") then
      let e ← expr fuel 0
      sign ")"
      return .of (.parens e) (← suffixes fuel)
    else
      let id ← name
      return .of (.name id) (← suffixes fuel)

/-- The suffixes of a chain. -/
def suffixes : Nat → Rule (List Suffix)
  | 0 => failure
  | fuel + 1 => do
    let t ← peek
    if ← accept (.symbol ".") then
      let id ← name
      return .field id :: (← suffixes fuel)
    else if ← accept (.symbol "[") then
      let key ← expr fuel 0
      sign "]"
      return .index key :: (← suffixes fuel)
    else if ← accept (.symbol ":") then
      let method ← name
      let args ← arguments fuel
      return .invoke method args :: (← suffixes fuel)
    else if startsArguments t then
      let args ← arguments fuel
      return .call args :: (← suffixes fuel)
    else return []

/-- The arguments of a call: a list in parentheses, a table, or a text. -/
def arguments : Nat → Rule (List Node)
  | 0 => failure
  | fuel + 1 => do
    match ← next with
    | .symbol "(" =>
      if ← accept (.symbol ")") then return []
      else
        let args ← exprs fuel
        sign ")"
        return args
    | .symbol "\x7b" =>
      fields fuel
      return [.table]
    | .text s => return [.string (.chars s)]
    | _ => failure

/-- The fields of a table, to its closing brace.  They leave nothing. -/
def fields : Nat → Rule Unit
  | 0 => failure
  | fuel + 1 => do
    if ← accept (.symbol "\x7d") then return ()
    else
      tableField fuel
      if ← accept (.symbol ",") then fields fuel
      else if ← accept (.symbol ";") then fields fuel
      else sign "\x7d"

/-- One field of a table. -/
def tableField : Nat → Rule Unit
  | 0 => failure
  | fuel + 1 => do
    if ← accept (.symbol "[") then
      let _ ← expr fuel 0
      sign "]"
      sign "="
      let _ ← expr fuel 0
    else
      match ← get with
      | .name _ :: .symbol "=" :: _ =>
        let _ ← next
        let _ ← next
        let _ ← expr fuel 0
      | _ =>
        let _ ← expr fuel 0

end

/-- Calls nest at most this many deep for each token. -/
def nestingPerToken : Nat := 16

end Grammar

/-- **The syntax of a source text**, if it follows the grammar. -/
def parse? (source : String) : Option Root := do
  let tokens ← Token.scan? source
  let (body, rest) ← Grammar.block (Grammar.nestingPerToken * (tokens.length + 2)) tokens
  if rest.isEmpty then return .chunk (.block body) else none

end DefUse.Lua
