import DefUse.Failure

/-!
# Name — the name an expression spells

An identifier, or a chain of member accesses over identifiers, spells a name: its parts joined by
the separators between them, such as `Duel.Hint` or `e1:SetCode`.  Definitions and uses are tracked
under that one text.

`resolve` sorts every value into names, compound expressions and the rest.  It fails only on an
identifier without a name and on a member access with an unknown separator, wherever in the chain
they stand.
-/

namespace DefUse

/-- The kind of a node: its `type` field, `null` for whatever is no record. -/
def kindOf (v : Value) : Value := v.field "type"

/-- Only a record has a kind. -/
theorem isRecord_of_kind {v : Value} {s : String} (h : (kindOf v).isText s) : v.isRecord := by
  cases v with
  | record fields => rfl
  | _ => simp [kindOf, Value.field, Value.get?, Value.isText, Value.text?] at h

/-- The separators of a chain. -/
inductive Separator where
  /-- `a.b` -/
  | dot
  /-- `a:b` -/
  | colon
  deriving DecidableEq, Repr

namespace Separator

/-- The character of a separator. -/
def char : Separator → Char
  | dot => '.'
  | colon => ':'

/-- The text of a separator. -/
def text (s : Separator) : String := String.singleton s.char

/-- The separator a value spells. -/
def ofValue? : Value → Option Separator
  | .str "." => some dot
  | .str ":" => some colon
  | _ => none

end Separator

/-- What an expression is, as far as names go. -/
inductive Resolution where
  /-- It spells a name. -/
  | name (joined : String)
  /-- It has a left operand of its own, and goes along as it is. -/
  | compound (node : Value)
  /-- Anything else, which goes along as it is. -/
  | other (node : Value)
  deriving Repr

/-- The name of an identifier node. -/
def identifierName (node : Value) : Except Failure String :=
  match node.field "name" with
  | .str s => if s = "" then .error (.namelessIdentifier node) else .ok s
  | _ => .error (.namelessIdentifier node)

/-- The name of a member access from what its base and its identifier spell.  A fault in the base
comes before one in the identifier. -/
def joinLinks (sep : Separator) :
    Except Failure (Option String) → Except Failure (Option String) → Except Failure (Option String)
  | .error f, _ => .error f
  | .ok _, .error f => .error f
  | .ok (some base), .ok (some leaf) => .ok (some (base ++ sep.text ++ leaf))
  | .ok _, .ok _ => .ok none

/-- **The name a value spells**, if it spells one.  Both sides of a member access are read, so that
a fault on either side is met even if the other spells no name. -/
def joinedName (v : Value) : Except Failure (Option String) :=
  if (kindOf v).isText "Identifier" then
    (identifierName v).map some
  else if _ : (kindOf v).isText "MemberExpression" then
    match Separator.ofValue? (v.field "indexer") with
    | none => .error (.unknownIndexer (v.field "indexer"))
    | some sep =>
      joinLinks sep (joinedName (v.field "base")) (joinedName (v.field "identifier"))
  else .ok none
termination_by v.size
decreasing_by all_goals exact Value.size_field_lt _ (isRecord_of_kind (by assumption))

/-- **Sort a value** into names, compound expressions and the rest. -/
def resolve (v : Value) : Except Failure Resolution := do
  match ← joinedName v with
  | some n => return .name n
  | none => return if (v.field "left").isNull then .other v else .compound v

/-- The name a value spells in a place where nothing but a name will do. -/
def requireName (place : Place) (v : Value) : Except Failure String := do
  match ← joinedName v with
  | some n => return n
  | none => throw (.unsupported (kindOf v) place none)

end DefUse
