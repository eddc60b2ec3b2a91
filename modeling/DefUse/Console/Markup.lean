import DefUse.Console.Emoji
import DefUse.Text.Width

/-!
# Console/Markup — tags in printed text

Printed text may hold tags: `[bold]` opens a style and `[/bold]` or `[/]` closes one.  A tag starts
with a small letter, `#`, `/` or `@` and holds no other opening bracket.  Backslashes before a tag
stand for half as many, and an odd one makes the tag plain text.

`Markup.render?` gives the text without its tags, or nothing if a tag closes a style that is not
open.  `Markup.escape` changes a text so that it is shown as it stands.
-/

namespace DefUse.Markup

/-! ## Finding tags -/

/-- A part of a text: a character, or a tag with the number of backslashes before it. -/
inductive Chunk where
  | char (c : Char)
  | tag (slashes : Nat) (body : List Char)
  deriving DecidableEq, Repr

/-- Whether a tag may start with a character. -/
def startsTag (c : Char) : Bool := c.isLower || c = '#' || c = '/' || c = '@'

/-- Whether a character may stand within a tag. -/
def isInTag (c : Char) : Bool := c ≠ '[' && c ≠ ']'

/-- What a tag holds and what follows it, from after its opening bracket. -/
def tagBody? : List Char → Option (List Char × List Char)
  | [] => none
  | c :: rest =>
    if startsTag c then
      match rest.dropWhile isInTag with
      | ']' :: after => some (c :: rest.takeWhile isInTag, after)
      | _ => none
    else none

/-- A tag with the backslashes before it: their number, what it holds and what follows it. -/
def tagAt? (cs : List Char) : Option (Nat × List Char × List Char) :=
  match cs.dropWhile (· = '\\') with
  | '[' :: after => (tagBody? after).map fun (body, rest) =>
    ((cs.takeWhile (· = '\\')).length, body, rest)
  | _ => none

theorem length_tagBody?_lt {cs body rest : List Char} (h : tagBody? cs = some (body, rest)) :
    rest.length < cs.length := by
  cases cs with
  | nil => simp [tagBody?] at h
  | cons c cs =>
    simp only [tagBody?] at h
    split at h
    · have := (List.dropWhile_sublist isInTag (l := cs)).length_le
      split at h
      · rename_i after heq
        simp only [Option.some.injEq, Prod.mk.injEq] at h
        rw [heq, List.length_cons, h.2] at this
        rw [List.length_cons]
        omega
      · simp at h
    · simp at h

theorem length_tagAt?_lt {cs body rest : List Char} {slashes : Nat}
    (h : tagAt? cs = some (slashes, body, rest)) : rest.length < cs.length := by
  simp only [tagAt?] at h
  have := (List.dropWhile_sublist (fun c => decide (c = '\\')) (l := cs)).length_le
  split at h
  · rename_i after heq
    rw [heq, List.length_cons] at this
    obtain ⟨⟨b, r⟩, hb, he⟩ := Option.map_eq_some_iff.1 h
    simp only [Prod.mk.injEq] at he
    have := length_tagBody?_lt hb
    rw [← he.2.2]
    omega
  · simp at h

/-- **The tags of a text and the characters between them.** -/
def chunks (cs : List Char) : List Chunk :=
  match cs with
  | [] => []
  | c :: rest =>
    match _ : tagAt? (c :: rest) with
    | some (slashes, body, after) => .tag slashes body :: chunks after
    | none => .char c :: chunks rest
termination_by cs.length
decreasing_by
  · exact length_tagAt?_lt ‹_›
  · simp

/-! ## Escaping -/

/-- A tag as it is written. -/
def tagText (body : List Char) : List Char := '[' :: body ++ [']']

/-- A chunk as it has to be written to be shown as it stands. -/
def Chunk.escaped : Chunk → List Char
  | char c => [c]
  | tag slashes body => List.replicate (2 * slashes + 1) '\\' ++ tagText body

/-- A lone backslash at the end would join with what follows, so it is written twice. -/
def closeEnd (cs : List Char) : List Char :=
  match cs.reverse with
  | '\\' :: '\\' :: _ => cs
  | '\\' :: _ => cs ++ ['\\']
  | _ => cs

/-- **A text as it has to be written to be shown as it stands.** -/
def escape (s : String) : String :=
  String.ofList (closeEnd ((chunks s.toList).flatMap Chunk.escaped))

/-! ## Showing -/

/-- A part of a marked text: plain text, or a tag that opens or closes a style. -/
inductive Piece where
  | plain (text : List Char)
  | tag (body : List Char)
  deriving DecidableEq, Repr

/-- Put a character before the plain text that pieces start with. -/
def Piece.prepend (c : Char) : List Piece → List Piece
  | plain text :: rest => plain (c :: text) :: rest
  | pieces => plain [c] :: pieces

/-- The pieces of chunks.  Each run of characters is one piece. -/
def pieces : List Chunk → List Piece
  | [] => [.plain []]
  | .char c :: rest => Piece.prepend c (pieces rest)
  | .tag slashes body :: rest =>
    .plain [] :: .plain (List.replicate (slashes / 2) '\\') ::
      (if slashes % 2 = 1 then .plain (tagText body) else .tag body) :: pieces rest

/-- A backslash before a bracket that opens no tag is not shown. -/
def dropEscapes : List Char → List Char
  | '\\' :: '[' :: rest => '[' :: dropEscapes rest
  | c :: rest => c :: dropEscapes rest
  | [] => []

/-- Whether a character is dropped from printed text: bell, backspace, vertical tab, form feed and
carriage return. -/
def isDropped (c : Char) : Bool := [7, 8, 11, 12, 13].contains c.toNat

/-- Plain text as it is shown. -/
def shown (text : List Char) : List Char :=
  (withPictures (dropEscapes text)).filter (!isDropped ·)

/-- The marks a style is made of, in their order. -/
def styleMarks : List String :=
  ["bold", "dim", "italic", "underline", "blink", "blink2", "reverse", "conceal", "strike",
   "underline2", "frame", "encircle", "overline"]

/-- Short names of marks. -/
def shortMarks : List (String × String) :=
  [("d", "dim"), ("b", "bold"), ("i", "italic"), ("u", "underline"), ("r", "reverse"),
   ("c", "conceal"), ("s", "strike"), ("uu", "underline2"), ("o", "overline")]

/-- The mark a word names. -/
def mark? (w : String) : Option String :=
  if styleMarks.contains w then some w else (shortMarks.find? (·.1 = w)).map (·.2)

/-- The marks that words set or, after `not`, clear; nothing if a word names none. -/
def marks? : List String → Option (List (String × Bool))
  | [] => some []
  | "not" :: w :: rest => do return (← mark? w, false) :: (← marks? rest)
  | w :: rest => do return (← mark? w, true) :: (← marks? rest)

/-- The words for a mark in a list in which the last mention counts. -/
def markWord? (set : List (String × Bool)) (m : String) : Option String :=
  (set.reverse.find? (·.1 = m)).map fun (_, on) => if on then m else "not " ++ m

/-- **The normal form of a style**: styles of the same marks are the same, whatever their order and
however they are named. -/
def normalStyle (name : List Char) : String :=
  let name := String.ofList (name.map Char.toLower)
  let ws := words name
  if ws.isEmpty || ws = ["none"] then "none"
  else
    match marks? ws with
    | some set => " ".intercalate (styleMarks.filterMap (markWord? set))
    | none => trimEnd (String.ofList (name.toList.dropWhile isBlank))

/-- Close the style opened last among those of a name, the latest being first. -/
def closeStyle? (name : String) : List String → Option (List String)
  | [] => none
  | n :: rest => if n = name then some rest else (closeStyle? name rest).map (n :: ·)

/-- What a tag does to the open styles; nothing if it closes one that is not open. -/
def applyTag? (styles : List String) (body : List Char) : Option (List String) :=
  match body.takeWhile (· ≠ '=') with
  | '/' :: name =>
    if name.all isBlank then
      match styles with
      | [] => none
      | _ :: rest => some rest
    else closeStyle? (normalStyle name) styles
  | name => some (normalStyle name :: styles)

/-- The text of pieces, under the styles that are open. -/
def renderPieces? : List String → List Piece → Option (List Char)
  | _, [] => some []
  | styles, .plain text :: rest => (renderPieces? styles rest).map (shown text ++ ·)
  | styles, .tag body :: rest =>
    match applyTag? styles body with
    | some styles => renderPieces? styles rest
    | none => none

/-- **The text of a marked text**, or nothing if a tag closes a style that is not open. -/
def render? (s : String) : Option String :=
  (renderPieces? [] (pieces (chunks s.toList))).map String.ofList

/-- The lines of a marked text, tabs filled up. -/
def lines? (s : String) : Option (List String) :=
  (render? s).map fun text =>
    (splitAt '\n' text.toList).map fun line => String.ofList (expandTabsFrom 0 line)

end DefUse.Markup
