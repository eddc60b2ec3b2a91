import DefUse.Failure

/-!
# Scope/Basic — the open scopes and what they hold

Scopes are numbered by depth: the global scope is at depth zero and each function body opens one
more.  A scope holds the names defined in it and the names used while it was the innermost one, in
two stacks that grow and shrink together.  `Scopes.pop` closes the innermost scope and never the
global one.

A request names a depth.  It is refused unless a scope is open there (`Scopes.level`); a refused
request changes nothing.  The owner of a name at a depth is the innermost scope, at that depth or
further out, that defines it (`Scopes.owner?`), and a name is visible where it has an owner.
-/

namespace DefUse

/-- A set of names, as the list of its members in the order they came. -/
abbrev Names := List String

/-- Add a name to a set. -/
def Names.add (names : Names) (n : String) : Names := if n ∈ names then names else names ++ [n]

@[simp] theorem Names.mem_add {names : Names} {n m : String} :
    m ∈ names.add n ↔ m ∈ names ∨ m = n := by
  unfold Names.add
  split <;> simp_all

/-- Names in increasing order, character by character. -/
def Names.sorted (names : Names) : List String := names.mergeSort fun a b => !(b < a)

/-- Whether a text starts with another one. -/
def startsWith (start text : String) : Bool := start.toList.isPrefixOf text.toList

/-- **The open scopes**, the global one first: the names defined and the names used in each. -/
structure Scopes where
  defined : List Names
  used : List Names
  deriving DecidableEq, Repr

namespace Scopes

/-- Only the global scope, with nothing in it. -/
def initial : Scopes := ⟨[[]], [[]]⟩

/-- The depth of the innermost scope. -/
def depth (s : Scopes) : Nat := s.defined.length - 1

/-- The names defined in the scope at a depth. -/
def definedAt (s : Scopes) (k : Nat) : Names := s.defined[k]?.getD []

/-- The names used in the scope at a depth. -/
def usedAt (s : Scopes) (k : Nat) : Names := s.used[k]?.getD []

/-- **The scope a depth stands for.**  A depth at which no scope is open is refused, and so is
every depth while the two stacks are out of step. -/
def level (s : Scopes) (d : Int) : Except Failure Nat :=
  if d < 0 ∨ s.defined.length ≤ d then .error (.depthNotOpen d s.depth)
  else if s.defined.length ≠ s.used.length then
    .error (.outOfStep s.defined.length s.used.length)
  else .ok d.toNat

/-! ## Queries -/

/-- The innermost scope that defines a name, from the one at a depth outwards. -/
def owner? (s : Scopes) (n : String) : Nat → Option Nat
  | 0 => if n ∈ s.definedAt 0 then some 0 else none
  | k + 1 => if n ∈ s.definedAt (k + 1) then some (k + 1) else s.owner? n k

/-- The owner of a name at a depth. -/
def find (s : Scopes) (n : String) (d : Int) : Except Failure (Option Nat) :=
  (s.level d).map (s.owner? n)

/-- Whether a name is visible at a depth. -/
def visible (s : Scopes) (n : String) (d : Int) : Except Failure Bool :=
  (s.find n d).map Option.isSome

/-- Whether a name is a member of another one: it goes on after it with a separator. -/
def isMemberOf (base n : String) : Bool := startsWith (base ++ ".") n || startsWith (base ++ ":") n

/-- **The visible members of a name**, in order and each once. -/
def members (s : Scopes) (base : String) (d : Int) : Except Failure (List String) :=
  (s.level d).map fun k =>
    Names.sorted ((s.defined.take (k + 1)).flatten.filter (isMemberOf base)).eraseDups

/-- The depth a declaration takes effect at: the global scope unless it is local. -/
def target (d : Int) (isLocal : Bool) : Int := if isLocal then d else 0

/-- Whether a declaration would define a name that is visible already. -/
def declares (s : Scopes) (n : String) (d : Int) (isLocal : Bool) : Except Failure Bool :=
  s.visible n (target d isLocal)

/-! ## Changes -/

/-- Define a name; the depth it was defined at. -/
def define (s : Scopes) (n : String) (d : Int) (isLocal : Bool) : Except Failure (Nat × Scopes) :=
  (s.level (target d isLocal)).map fun k =>
    (k, { s with defined := s.defined.modify k (·.add n) })

/-- Record the use of a name; whether it was visible. -/
def use (s : Scopes) (n : String) (d : Int) : Except Failure (Bool × Scopes) :=
  (s.level d).map fun k =>
    ((s.owner? n k).isSome, { s with used := s.used.modify k (·.add n) })

/-- Open a new innermost scope. -/
def push (s : Scopes) : Scopes := ⟨s.defined ++ [[]], s.used ++ [[]]⟩

/-- Drop the innermost scope of uses alone, which puts the two stacks out of step. -/
def dropUsed (s : Scopes) : Except Failure Scopes :=
  if s.used.isEmpty then .error .noUsesLeft else .ok { s with used := s.used.dropLast }

/-- **Close the innermost scope.**  The global scope stays.  Were there no scope of uses to close,
the one of definitions would be closed all the same. -/
def pop (s : Scopes) : Except Failure Unit × Scopes :=
  if s.defined.length ≤ 1 then (.error .globalScope, s)
  else
    let s := { s with defined := s.defined.dropLast }
    match s.dropUsed with
    | .ok s => (.ok (), s)
    | .error f => (.error f, s)

/-- The number of names in the scope at a depth. -/
structure Counts where
  depth : Nat
  defined : Nat
  used : Nat
  deriving DecidableEq, Repr

/-- The counts of the scope at a depth. -/
def counts (s : Scopes) (k : Nat) : Counts := ⟨k, (s.definedAt k).length, (s.usedAt k).length⟩

/-- **What a scope holds**, asked for by its depth. -/
def snapshot (s : Scopes) (d : Int) : Except Failure Counts := (s.level d).map s.counts

/-- The text of the counts of a scope. -/
def Counts.text (c : Counts) : String :=
  s!"Scope(depth={c.depth}, defined={c.defined}, used={c.used})"

end Scopes

end DefUse
