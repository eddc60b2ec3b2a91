import DefUse.Check.Session

/-!
# Check/Replay — scopes from a trace

The trace of a run holds every change of its scopes, so the scopes at any point can be had by going
through the events up to it.  `Scopes.unwinding` lists what happens to them if the run ends there:
each open function is left and its scope closed, the innermost first.
-/

namespace DefUse

namespace Scopes

/-- The scopes after an event. -/
def replay (s : Scopes) : Event → Scopes
  | .opened _ => s.push
  | .closed _ => s.pop.2
  | .defined n k =>
    match s.define n k true with
    | .ok (_, t) => t
    | .error _ => s
  | .used n d _ =>
    match s.use n d with
    | .ok (_, t) => t
    | .error _ => s
  | _ => s

/-- The scopes after some events. -/
def replayAll (events : List Event) : Scopes := events.foldl replay .initial

/-- What happens if a run ends with this many scopes open below the global one. -/
def unwindingFrom (s : Scopes) : Nat → List Event
  | 0 => []
  | k + 1 => .left (s.counts (k + 1)) :: .closed (k + 1) :: s.unwindingFrom k

/-- **What happens if a run ends here.** -/
def unwinding (s : Scopes) : List Event := s.unwindingFrom s.depth

end Scopes

end DefUse
