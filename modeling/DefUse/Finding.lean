/-!
# Finding — what a check reports

There are two kinds of findings: the use of a name that no open scope defines, and the declaration
of a name that is visible already.
-/

namespace DefUse

/-- The kinds of findings. -/
inductive FindingKind where
  | undefinedUse
  | redefinition
  deriving DecidableEq, Repr

namespace FindingKind

/-- The kinds, in the order they are counted in. -/
def all : List FindingKind := [undefinedUse, redefinition]

/-- The label of a kind. -/
def label : FindingKind → String
  | undefinedUse => "UseUndefined"
  | redefinition => "VariableRedefinition"

/-- The kind with a label. -/
def ofLabel? (s : String) : Option FindingKind := all.find? (·.label = s)

end FindingKind

/-- **A finding**: its kind and the name it is about. -/
structure Finding where
  kind : FindingKind
  name : String
  deriving DecidableEq, Repr

namespace Finding

/-- The sentence that reports a finding. -/
def message (f : Finding) : String :=
  match f.kind with
  | .undefinedUse => s!"Using undefined variable {f.name}"
  | .redefinition => s!"Variable redefinition of {f.name}"

/-- The numbered lines that report findings, counted from a number on. -/
def numberedFrom : Nat → List Finding → List String
  | _, [] => []
  | k, f :: rest => s!"Warning #{k}: {f.message}" :: numberedFrom (k + 1) rest

/-- The numbered lines that report findings. -/
def numbered (fs : List Finding) : List String := numberedFrom 1 fs

/-- How many findings are of a kind. -/
def count (kind : FindingKind) (fs : List Finding) : Nat := fs.countP (·.kind = kind)

end Finding

end DefUse
