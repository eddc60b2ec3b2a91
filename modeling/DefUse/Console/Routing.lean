import DefUse.Console.Log

/-!
# Console/Routing — where records go

Everything is printed on the console that is current when it is printed.  Another console can be put
in its place, and a reset puts the standard one there.  The threshold is a matter of its own: it is
set by asking for more or fewer records, and only a reset takes it back.
-/

namespace DefUse

/-- A console: the standard one, or one put in its place. -/
inductive Destination where
  | standard
  | other (n : Nat)
  deriving DecidableEq, Repr

/-- **Where records go**: the current console, and the lowest level that is printed. -/
structure Routing where
  current : Destination
  threshold : Level
  deriving DecidableEq, Repr

/-- What can be asked of the consoles. -/
inductive Request where
  | redirect (d : Destination)
  | reset
  | verbose (on : Bool)
  | log (r : Record)
  | print (values : List Value)

/-- Lines written to a console. -/
structure Writing where
  destination : Destination
  lines : List String
  deriving DecidableEq, Repr

namespace Routing

/-- The standard console, without debug records. -/
def initial : Routing := ⟨.standard, .info⟩

/-- Whether records of a level are printed. -/
def accepts (r : Routing) (level : Level) : Bool := r.threshold.rank ≤ level.rank

/-- The threshold for more or for fewer records. -/
def thresholdOf (verbose : Bool) : Level := if verbose then .debug else .info

/-- **Answer a request**: the routing after it and what is written, or why it cannot be shown. -/
def step (c : Console) (r : Routing) : Request → Except Fault (Routing × List Writing)
  | .redirect d => .ok ({ r with current := d }, [])
  | .reset => .ok (initial, [])
  | .verbose on => .ok ({ r with threshold := thresholdOf on }, [])
  | .log record =>
    if r.accepts record.level then (c.record record).map fun ls => (r, [⟨r.current, ls⟩])
    else .ok (r, [])
  | .print values => (c.printed values).map fun ls => (r, [⟨r.current, ls⟩])

/-- Answer requests one after the other. -/
def run (c : Console) (r : Routing) : List Request → Except Fault (Routing × List Writing)
  | [] => .ok (r, [])
  | request :: rest => do
    let (r, now) ← r.step c request
    let (r, later) ← r.run c rest
    return (r, now ++ later)

end Routing

end DefUse
