import DefUse.Console.Box
import DefUse.Console.Markup
import DefUse.Value.Display

/-!
# Console/Screen — a console with marked text

`screen` is the console that is there if nothing else is put in its place.  Its texts are marked, as
`Console/Markup` says.  A record is shown with the name of its level before the first line and the
other lines below that, a table in a box.  It is as wide as the longest line.
-/

namespace DefUse

/-! ## Records -/

namespace Record

/-- Put the name of a level before the first line and blanks before the others. -/
def heading (level : Level) : List String → List String
  | [] => []
  | line :: rest =>
    (padRight 8 level.name ++ " " ++ line) :: rest.map fun l => "".pushn ' ' 9 ++ l

/-- The lines of a record, unless its text cannot be shown. -/
def lines? (r : Record) : Option (List String) := (Markup.lines? r.text).map (heading r.level)

end Record

/-! ## Printed values

Several values are printed on one line with blanks between them; lists and records get a line of
their own. -/

/-- The lines of texts that are printed side by side. -/
def joinedLines : List String → List String
  | [] => []
  | texts => (splitAt '\n' (" ".intercalate texts).toList).map fun line =>
    String.ofList (expandTabsFrom 0 line)

/-- The lines of values, `texts` being those before them on the line. -/
def printedFrom? (texts : List String) : List Value → Option (List String)
  | [] => some (joinedLines texts)
  | .str s :: rest => do printedFrom? (texts ++ [← Markup.render? s]) rest
  | .list items :: rest => do
    return joinedLines texts ++ Value.display (.list items) :: (← printedFrom? [] rest)
  | .record fields :: rest => do
    return joinedLines texts ++ Value.display (.record fields) :: (← printedFrom? [] rest)
  | v :: rest => printedFrom? (texts ++ [v.plain]) rest

/-- **The lines of printed values**, unless a text among them cannot be shown.  Nothing at all is an
empty line. -/
def printed? (values : List Value) : Option (List String) :=
  if values.isEmpty then some [""] else printedFrom? [] values

/-! ## Tables -/

/-- The lines of a table, unless a cell of it cannot be shown. -/
def Table.lines? (t : Table) : Option (List String) := do
  let rows ← t.rows.mapM fun row => row.mapM Markup.lines?
  return Box.lines ⟨t.title, t.columns, rows⟩

/-- What is shown, or the mark that is out of place. -/
def shownOr {α : Type} : Option α → Except Fault α
  | some a => .ok a
  | none => .error .markup

/-- **The console that is there from the start.** -/
def screen : Console where
  escape := Markup.escape
  record r := shownOr r.lines?
  printed values := shownOr (printed? values)
  table t := shownOr t.lines?

end DefUse
