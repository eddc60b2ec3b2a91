import DefUse.Json.Document
import DefUse.Number.Shortest
import DefUse.Text.Quoted

/-!
# Json/Printer — writing a JSON document

Documents are written in ASCII: every other character is escaped by its UTF-16 code units, and half
of a pair by itself.  The indented form puts each item and member on a line of its own, two blanks
deeper than its container, and writes empty containers as `[]` and `{}`; the compact form is one
line.  A document with a whole number that has too many digits is not written at all.
-/

namespace DefUse.Json

/-- The escape of one code unit. -/
def unitEscape (n : Nat) : String := "\\u" ++ hexPadded 4 n

/-- One character as it stands in a text. -/
def escapeChar (c : Char) : String :=
  let n := c.toNat
  if c = '"' then "\\\""
  else if c = '\\' then "\\\\"
  else if c = '\n' then "\\n"
  else if c = '\r' then "\\r"
  else if c = '\t' then "\\t"
  else if n = 0x08 then "\\b"
  else if n = 0x0C then "\\f"
  else if 0x20 ≤ n ∧ n < 0x7F then String.singleton c
  else if n < 0x10000 then unitEscape n
  else
    let m := n - 0x10000
    unitEscape (0xD800 + m / 0x400) ++ unitEscape (0xDC00 + m % 0x400)

/-- One code point as it stands in a text. -/
def escapePoint : CodePoint → String
  | .char c => escapeChar c
  | .high n => unitEscape (0xD800 + n)
  | .low n => unitEscape (0xDC00 + n)

/-- A text between double quotes. -/
def renderText (t : Text) : String :=
  "\"" ++ String.join (t.map escapePoint) ++ "\""

/-- Doubles are written as messages show them, apart from those that are not finite. -/
def numberStyle : NumberStyle :=
  { NumberStyle.plain with infinity := "Infinity", notANumber := "NaN" }

/-- Where line breaks go: nowhere, or before each part at a depth of two blanks a level. -/
inductive Layout where
  | compact
  | indented (depth : Nat)
  deriving DecidableEq, Repr

/-- One level deeper. -/
def Layout.deeper : Layout → Layout
  | compact => compact
  | indented n => indented (n + 1)

/-- What stands before a part, or before a closing bracket, at this level. -/
def Layout.break : Layout → String
  | compact => ""
  | indented n => "\n" ++ "".pushn ' ' (2 * n)

/-- What stands between two parts at this level. -/
def Layout.between : Layout → String
  | compact => ", "
  | indented n => "," ++ (indented n).break

/-- The parts of a container between its brackets. -/
def Layout.enclose (layout : Layout) (opening closing : String) : List String → String
  | [] => opening ++ closing
  | parts =>
    opening ++ layout.deeper.break ++ layout.deeper.between.intercalate parts ++ layout.break ++
      closing

mutual

/-- Write a document. -/
def render (layout : Layout) : Document → String
  | .null => "null"
  | .bool b => if b then "true" else "false"
  | .int n => toString n
  | .float x => x.render numberStyle
  | .str t => renderText t
  | .list items => layout.enclose "[" "]" (renderItems layout.deeper items)
  | .record fields => layout.enclose "\x7b" "\x7d" (renderFields layout.deeper fields)

/-- Write the items of a list. -/
def renderItems (layout : Layout) : List Document → List String
  | [] => []
  | d :: rest => render layout d :: renderItems layout rest

/-- Write the members of a record. -/
def renderFields (layout : Layout) : List (Text × Document) → List String
  | [] => []
  | (k, d) :: rest => (renderText k ++ ": " ++ render layout d) :: renderFields layout rest

end

/-- **The indented form of a document**, unless a whole number in it has too many digits. -/
def write? (d : Document) : Option String :=
  if d.isWritable then some (render (.indented 0) d) else none

/-- The one-line form of a value. -/
def compact (v : Value) : String := render .compact (.ofValue v)

/-- The indented form of a value. -/
def indented (v : Value) : String := render (.indented 0) (.ofValue v)

end DefUse.Json
