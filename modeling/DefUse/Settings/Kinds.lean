import DefUse.Settings.Validate

/-!
# Settings/Kinds — telling the kinds of data apart

`strict` is the validator that is there if nothing else is put in its place.  It converts nothing: a
text has to be given as a text.  Its complaints name the kind that was expected, and its report
shows what was given in place of it.
-/

namespace DefUse

/-- The text of a spot. -/
def Spot.text : Spot → String
  | field n => n
  | index n => toString n

/-- A text cut down to its first and last bytes if it is long.  No character is cut in two: one
that crosses a cut is left out. -/
def shorten (s : String) : String :=
  let size := s.utf8ByteSize
  if size ≤ 50 then s
  else
    let head := keepBytes 25 s.toList
    let tail := (keepBytes 24 s.toList.reverse).reverse
    String.ofList head ++ "..." ++ String.ofList tail
where
  /-- The characters that fit in a number of bytes. -/
  keepBytes : Nat → List Char → List Char
    | _, [] => []
    | room, c :: rest => if c.utf8Size ≤ room then c :: keepBytes (room - c.utf8Size) rest else []

namespace Complaint

/-- The complaint that something is no text. -/
def notText (spots : List Spot) (d : Datum) : Complaint :=
  ⟨spots, "string_type", "Input should be a valid string", d⟩

/-- The complaint that something is no list. -/
def notList (spots : List Spot) (d : Datum) : Complaint :=
  ⟨spots, "list_type", "Input should be a valid list", d⟩

/-- The complaint that something is no table. -/
def notTable (spots : List Spot) (d : Datum) : Complaint :=
  ⟨spots, "dict_type", "Input should be a valid dictionary", d⟩

/-- The complaint about something that is refused with a sentence. -/
def refused (spots : List Spot) (sentence : String) (d : Datum) : Complaint :=
  ⟨spots, "value_error", "Value error, " ++ sentence, d⟩

/-- The two lines that tell of a complaint. -/
def lines (c : Complaint) : List String :=
  let given := shorten c.given.display
  let kind := c.given.typeName
  [".".intercalate (c.spots.map Spot.text),
   s!"  {c.message} [type={c.label}, input_value={given}, input_type={kind}]"]

/-- The text that tells of all complaints. -/
def report (cs : List Complaint) : String :=
  let errors := if cs.length = 1 then "error" else "errors"
  "\n".intercalate (s!"{cs.length} validation {errors} for VerifierConfig" :: cs.flatMap lines)

end Complaint

namespace Strict

/-- Two parts together: what is made of both, or the complaints about either. -/
def both {α β γ : Type} (f : α → β → γ) : Checked α → Checked β → Checked γ
  | .ok a, .ok b => .ok (f a b)
  | x, y => .error (x.complaints ++ y.complaints)

/-- A text. -/
def text (spots : List Spot) : Datum → Checked String
  | .str s => .ok s
  | d => .error [.notText spots d]

/-- Texts, counted from a number on. -/
def textsFrom (spots : List Spot) : Nat → List Datum → Checked (List String)
  | _, [] => .ok []
  | i, d :: rest => both (· :: ·) (text (spots ++ [.index i]) d) (textsFrom spots (i + 1) rest)

/-- A list of texts. -/
def texts (spots : List Spot) : Datum → Checked (List String)
  | .list items => textsFrom spots 0 items
  | d => .error [.notList spots d]

/-- The spot of a key. -/
def keySpot : Datum → Spot
  | .str s => .field s
  | .int n => .index n
  | .bool b => .index (if b then 1 else 0)
  | d => .field d.display

/-- The pairs of a table of lists of texts. -/
def pairs (spots : List Spot) : List (Datum × Datum) → Checked (List (String × List String))
  | [] => .ok []
  | (k, v) :: rest =>
    let spot := spots ++ [keySpot k]
    let pair := both Prod.mk (text (spot ++ [.field "[key]"]) k) (texts spot v)
    both (· :: ·) pair (pairs spots rest)

/-- A table of lists of texts. -/
def members (spots : List Spot) : GivenTable → Checked (List (String × List String))
  | .ok given => pairs spots given
  | .error d => .error [.notTable spots d]

end Strict

/-- **The validator that converts nothing.** -/
def strict : Validator where
  text := Strict.text
  texts := Strict.texts
  members := Strict.members
  refusal := Complaint.refused
  report := Complaint.report

end DefUse
