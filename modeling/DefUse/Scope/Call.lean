import DefUse.Trace

/-!
# Scope/Call — requests to the open scopes

The requests the scopes answer, as data, so that a history is a list of them.  A depth may be given
as any value; only whole numbers are depths.
-/

namespace DefUse.Scopes

/-- The depth a value stands for. -/
def depthOf : Value → Except Failure Int
  | .int n => .ok n
  | v => .error (.depthNotANumber v)

/-- The depth a declaration takes effect at, if it is given as a value: one that is not local does
not look at it. -/
def targetOf (depth : Value) (isLocal : Bool) : Except Failure Int :=
  if isLocal then depthOf depth else .ok 0

/-- **A request to the scopes.** -/
inductive Call where
  | push
  | pop
  | define (name : String) (depth : Value) (isLocal : Bool)
  | use (name : String) (depth : Value)
  | declare (name : String) (depth : Value) (isLocal : Bool)
  | visible (name : String) (depth : Value)
  | find (name : String) (depth : Value)
  | members (base : String) (depth : Value)
  | contents (depth : Value)

/-- The answer to a request. -/
inductive Answer where
  | done
  | depth (k : Nat)
  | flag (b : Bool)
  | owner (k : Option Nat)
  | names (ns : List String)
  | contents (depth : Nat) (defined used : Names)

/-- What a request leads to: the answer or why it was refused, the scopes after it, and the events
it leaves. -/
structure Outcome where
  result : Except Failure Answer
  scopes : Scopes
  events : List Event := []

/-- A query, which changes nothing. -/
def Outcome.query (s : Scopes) (result : Except Failure Answer) : Outcome := ⟨result, s, []⟩

/-- **Carry out a request.** -/
def Call.perform (s : Scopes) : Call → Outcome
  | push =>
    let s := s.push
    ⟨.ok (.depth s.depth), s, [.opened s.depth]⟩
  | pop =>
    match s.pop with
    | (.error .globalScope, s) => ⟨.error .globalScope, s, []⟩
    | (result, after) => ⟨result.map fun _ => .done, after, [.closed s.depth]⟩
  | define n d isLocal =>
    match targetOf d isLocal >>= fun k => s.define n k true with
    | .ok (k, after) => ⟨.ok (.depth k), after, [.defined n k]⟩
    | .error f => .query s (.error f)
  | use n d =>
    match depthOf d >>= fun k => (s.use n k).map (k, ·) with
    | .ok (k, seen, after) => ⟨.ok (.flag seen), after, [.used n k seen]⟩
    | .error f => .query s (.error f)
  | declare n d isLocal =>
    .query s ((targetOf d isLocal >>= s.visible n).map .flag)
  | visible n d => .query s ((depthOf d >>= s.visible n).map .flag)
  | find n d => .query s ((depthOf d >>= s.find n).map .owner)
  | members base d => .query s ((depthOf d >>= s.members base).map .names)
  | contents d =>
    .query s ((depthOf d >>= s.level).map fun k => .contents k (s.definedAt k) (s.usedAt k))

end DefUse.Scopes
