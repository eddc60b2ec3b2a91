import DefUse.Finding
import DefUse.Scope.Basic

/-!
# Trace — the record of a run

Every change of the scopes and of the findings, and every statement entered, leaves an event.  The
events of a run in order are its trace, which a verbose run prints.
-/

namespace DefUse

/-- **Something that happened in a run.** -/
inductive Event where
  | opened (depth : Nat)
  | closed (depth : Nat)
  | defined (name : String) (depth : Nat)
  | used (name : String) (depth : Int) (visible : Bool)
  | warned (finding : Finding)
  | retracted (name : String)
  | entered (kind : Value) (depth : Int)
  | ignored (kind : Value)
  | left (counts : Scopes.Counts)

/-- The line that tells of an event. -/
def Event.message : Event → String
  | opened d => s!"Starting new local scope (depth {d})"
  | closed d => s!"Removing local scope (depth {d})"
  | defined n d => s!"Defining: {n} @ {d}"
  | used n d visible =>
    let mark := if visible then "" else " (undefined)"
    s!"Using: {n} @ {d}{mark}"
  | warned f => s!"Warning: {f.kind.label} {f.name}"
  | retracted n => s!"Retracted undefined use of {n}"
  | entered kind d => s!"[[ STATEMENT {kind.plain} ]] @ {d}"
  | ignored kind => s!"Ignoring operand {kind.display}"
  | left c => s!"Leaving {c.text}"

end DefUse
