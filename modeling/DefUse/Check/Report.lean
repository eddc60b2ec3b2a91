import DefUse.Check.Session

/-!
# Check/Report — the outcome of checking one tree

A report holds the findings and, if the walk failed, why.  A failure that is not reported ends the
check without one.
-/

namespace DefUse

/-- **What checking one tree, or one file, came to.** -/
structure Report where
  path : Option String
  findings : List Finding
  errors : List String
  success : Bool
  deriving DecidableEq, Repr

namespace Report

/-- Whether there is nothing to report. -/
def isClean (r : Report) : Bool := r.success && r.findings.isEmpty

/-- The report on a file that could not be looked at. -/
def failed (path : Option String) (error : String) : Report := ⟨path, [], [error], false⟩

end Report

namespace Session

/-- **Check the tree**: the report, or the failure that ended the walk without one. -/
def verify (s : Session) (path : Option String) : Except Failure Report × Session :=
  match s.walk 0 with
  | (none, s) => (.ok ⟨path, s.findings, [], true⟩, s)
  | (some f, s) =>
    match f.message? with
    | some m => (.ok ⟨path, s.findings, [m], false⟩, s)
    | none => (.error f, s)

end Session

/-- Check a tree under some settings. -/
def verifyTree (settings : Settings) (tree : Value) (path : Option String) :
    Except Failure Report :=
  ((Session.start settings tree).verify path).1

end DefUse
