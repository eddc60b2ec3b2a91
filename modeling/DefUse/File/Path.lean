import DefUse.Text.Blank

/-!
# File/Path — paths

A path is a sequence of names.  Empty names and `.` are dropped when it is read, `..` is kept: what
it means depends on the files.  The suffix of a name starts at its last dot, and there is none if
that dot is the first or the last character.
-/

namespace DefUse

/-- Where a path starts.  Exactly two slashes at its start are kept, and lead to the root too. -/
inductive Anchor where
  | working
  | root
  | doubled
  deriving DecidableEq, Repr, Inhabited

namespace Anchor

/-- What a path that starts there is written with. -/
def text : Anchor → String
  | working => ""
  | root => "/"
  | doubled => "//"

/-- Where a text says that its path starts. -/
def ofChars : List Char → Anchor
  | '/' :: '/' :: '/' :: _ => root
  | '/' :: '/' :: _ => doubled
  | '/' :: _ => root
  | _ => working

end Anchor

/-- **A path**, from the root or from the working directory. -/
structure Path where
  anchor : Anchor
  parts : List String
  deriving DecidableEq, Repr, Inhabited

namespace Path

/-- The working directory. -/
def here : Path := ⟨.working, []⟩

/-- Whether a path starts at the root. -/
def absolute (p : Path) : Bool := p.anchor ≠ .working

/-- Read a path. -/
def ofText (s : String) : Path :=
  { anchor := .ofChars s.toList
    parts := ((splitAt '/' s.toList).map String.ofList).filter fun p => p ≠ "" && p ≠ "." }

/-- The text of a path. -/
def text (p : Path) : String :=
  if p = here then "." else p.anchor.text ++ "/".intercalate p.parts

/-- Whether a name of a path has the character that ends a name. -/
def hasNull (p : Path) : Bool := p.parts.any fun n => n.toList.contains '\x00'

/-- The last name of a path, empty if it has none. -/
def name (p : Path) : String := p.parts.getLast?.getD ""

/-- The path without its last name. -/
def parent (p : Path) : Path := { p with parts := p.parts.dropLast }

/-- A path followed from another one. -/
def join (p q : Path) : Path := if q.absolute then q else { p with parts := p.parts ++ q.parts }

/-- A name below a path. -/
def child (p : Path) (n : String) : Path := { p with parts := p.parts ++ [n] }

/-- The suffix of a name. -/
def suffixOf (n : String) : String :=
  let back := n.toList.reverse
  let stem := back.dropWhile (· ≠ '.')
  let suffix := back.takeWhile (· ≠ '.')
  if stem.length ≤ 1 ∨ suffix.isEmpty then "" else String.ofList ('.' :: suffix.reverse)

/-- The suffix of a path's last name. -/
def suffix (p : Path) : String := suffixOf p.name

/-- The suffix of a path's last name with its capital letters made small. -/
def foldedSuffix (p : Path) : String := String.ofList (p.suffix.toList.map Char.toLower)

/-- Component by component order. -/
def partsLe : List String → List String → Bool
  | [], _ => true
  | _ :: _, [] => false
  | a :: as, b :: bs => if a = b then partsLe as bs else decide (a < b)

end Path

end DefUse
