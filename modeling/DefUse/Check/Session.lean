import DefUse.Check.Step
import DefUse.Settings.Basic
import DefUse.Trace

/-!
# Check/Session — carrying out the steps of a walk

A session holds what a walk over one tree changes: the open scopes, the findings so far and the
trace.  Each operation takes the session to the one after it and says whether it failed; what was
changed before a failure stays changed.

A use that is not visible is reported once per name, until the name is declared where it is not
visible: that takes the report back.  A declaration of a visible name is reported every time.

If a trace is asked for, the scope of a function is looked at once more when the function is left.
That is a request like any other, made in no other case, and one that can be refused.
-/

namespace DefUse

/-- **The state of a walk over a tree.** -/
structure Session where
  settings : Settings
  tree : Value
  scopes : Scopes
  findings : List Finding
  /-- Whether the tree was walked. -/
  walked : Bool
  /-- Whether a trace is asked for. -/
  traced : Bool
  /-- What happened, the latest event first. -/
  events : List Event

/-- What an operation leads to: the failure that ended it, if one did, and the session after it. -/
abbrev Outcome := Option Failure × Session

/-- Go on after an operation unless it failed. -/
def Outcome.andThen (o : Outcome) (next : Session → Outcome) : Outcome :=
  match o with
  | (none, s) => next s
  | (some f, s) => (some f, s)

namespace Session

/-- Add an event to the trace. -/
def note (s : Session) (e : Event) : Session := { s with events := e :: s.events }

/-- The events in the order they happened. -/
def trace (s : Session) : List Event := s.events.reverse

/-! ## Findings -/

/-- Report a finding.  The undefined use of a name is reported once. -/
def warn (s : Session) (f : Finding) : Session :=
  if f.kind = .undefinedUse ∧ f ∈ s.findings then s
  else { s.note (.warned f) with findings := s.findings ++ [f] }

/-- Take back the undefined use of a name. -/
def retract (s : Session) (n : String) : Session :=
  let pending : Finding := ⟨.undefinedUse, n⟩
  if pending ∈ s.findings then
    { s.note (.retracted n) with findings := s.findings.filter (· ≠ pending) }
  else s

/-! ## Operations -/

/-- Declare a name, before it is defined. -/
def declare (s : Session) (n : String) (d : Int) (isLocal : Bool) : Outcome :=
  match s.scopes.declares n d isLocal with
  | .error f => (some f, s)
  | .ok true => (none, s.warn ⟨.redefinition, n⟩)
  | .ok false => (none, s.retract n)

/-- Define a name. -/
def define (s : Session) (n : String) (d : Int) (isLocal : Bool) : Outcome :=
  match s.scopes.define n d isLocal with
  | .error f => (some f, s)
  | .ok (k, scopes) => (none, { s.note (.defined n k) with scopes })

/-- Use a name. -/
def use (s : Session) (n : String) (d : Int) : Outcome :=
  match s.scopes.use n d with
  | .error f => (some f, s)
  | .ok (visible, scopes) =>
    let s := { s.note (.used n d visible) with scopes }
    (none, if visible then s else s.warn ⟨.undefinedUse, n⟩)

/-- Assign to a name: define it again where it is owned, or in the global scope if nowhere. -/
def assign (s : Session) (n : String) (d : Int) : Outcome :=
  match s.scopes.find n d with
  | .error f => (some f, s)
  | .ok (some owner) => s.define n owner true
  | .ok none => s.define n 0 false

/-- Define names one after the other. -/
def defineAll (s : Session) (d : Int) : List String → Outcome
  | [] => (none, s)
  | n :: rest => Outcome.andThen (s.define n d true) fun s => s.defineAll d rest

/-- What the name of a call that copies a handle calls the handle: the name without the clone
token, if that leaves anything. -/
def cloneSource? (settings : Settings) (callee : String) : Option String :=
  let token := settings.cloneToken.toList
  let cs := callee.toList
  if token.isSuffixOf cs && token.length < cs.length then
    some (String.ofList (cs.take (cs.length - token.length)))
  else none

/-- The name of a member, moved from one handle to another. -/
def moveMember (source name member : String) : String :=
  name ++ String.ofList (member.toList.drop source.length)

/-- **The members a name gains from a call**: those of the copied handle, in order, then those the
table lists for the factory. -/
def derivedMembers (s : Session) (name callee : String) (d : Int) :
    Except Failure (List String) := do
  let copied ← match cloneSource? s.settings callee with
    | some source => (s.scopes.members source d).map (·.map (moveMember source name))
    | none => pure []
  let sep := s.settings.separator.text
  return copied ++ (s.settings.derivedFrom callee).map (name ++ sep ++ ·)

/-- Define the members a name gains from a call, each once. -/
def derive (s : Session) (name callee : String) (d : Int) : Outcome :=
  match s.derivedMembers name callee d with
  | .error f => (some f, s)
  | .ok members => s.defineAll d members.eraseDups

/-- Open a scope. -/
def openScope (s : Session) : Session :=
  let scopes := s.scopes.push
  { s.note (.opened scopes.depth) with scopes }

/-- Close the innermost scope. -/
def closeScope (s : Session) : Outcome :=
  match s.scopes.pop with
  | (.error .globalScope, _) => (some .globalScope, s)
  | (result, scopes) =>
    (match result with
      | .ok _ => none
      | .error f => some f,
     { s.note (.closed s.scopes.depth) with scopes })

/-- Look at a scope that is left, if a trace is asked for. -/
def lookBack (s : Session) (inner : Nat) : Outcome :=
  if s.traced then
    match s.scopes.snapshot inner with
    | .ok counts => (none, s.note (.left counts))
    | .error f => (some f, s)
  else (none, s)

/-- Close the scope of a function, whether its body ended well or not.  A failure to look at it, and
one to close it, comes before one of the body; a scope that cannot be looked at stays open. -/
def leave (inner : Nat) (o : Outcome) : Outcome :=
  match o.2.lookBack inner with
  | (some f, s) => (some f, s)
  | (none, s) =>
    let (closing, s) := s.closeScope
    (closing.or o.1, s)

end Session

mutual

/-- **Carry out a step** at a depth. -/
def Step.perform (d : Int) : Step → Session → Outcome
  | .enter kind, s => (none, s.note (.entered kind d))
  | .ignore kind, s => (none, s.note (.ignored kind))
  | .declare n isLocal, s => s.declare n d isLocal
  | .define n isLocal, s => s.define n d isLocal
  | .use n, s => s.use n d
  | .assign n, s => s.assign n d
  | .derive n callee, s => s.derive n callee d
  | .stop f, s => (some f, s)
  | .function body, s =>
    let s := s.openScope
    let inner := s.scopes.depth
    if (inner : Int) = d + 1 then Session.leave inner (Step.performAll inner body s)
    else
      let (closing, s) := s.closeScope
      (closing.or (some (.misplacedScope d inner)), s)

/-- Carry out steps one after the other, up to the first failure. -/
def Step.performAll (d : Int) : List Step → Session → Outcome
  | [], s => (none, s)
  | step :: rest, s => Outcome.andThen (step.perform d s) fun s => Step.performAll d rest s

end

namespace Session

/-- A session before anything but the names taken for granted is defined. -/
def start (settings : Settings) (tree : Value) : Session :=
  (defineAllGlobals settings.globals
    { settings, tree, scopes := .initial, findings := [], walked := false, traced := false,
      events := [] })
where
  /-- Define names in the global scope, which is always open. -/
  defineAllGlobals : List String → Session → Session
    | [], s => s
    | n :: rest, s => defineAllGlobals rest (s.define n 0 false).2

/-- The session with a trace asked for. -/
def withTrace (s : Session) : Session := { s with traced := true }

/-- Visit the statements of a node at a depth. -/
def visitBlock (s : Session) (node : Value) (d : Int) : Outcome :=
  Step.performAll d (blockSteps node) s

/-- Visit a statement at a depth. -/
def visitStatement (s : Session) (node : Value) (d : Int) : Outcome :=
  Step.performAll d (statementSteps node) s

/-- Check an expression at a depth. -/
def checkExpression (s : Session) (node : Value) (d : Int) : Outcome :=
  Step.performAll d (expressionSteps node) s

/-- Check an operand at a depth. -/
def checkOperand (s : Session) (node : Value) (d : Int) : Outcome :=
  Step.performAll d (operandSteps node) s

/-- **Walk the tree**, which is done once. -/
def walk (s : Session) (d : Int) : Outcome :=
  if s.walked then (some .secondWalk, s) else { s with walked := true }.visitBlock s.tree d

end Session

end DefUse
