import DefUse.Value.Basic

/-!
# Json/Document — what a JSON document says

A text of a document is a sequence of code points.  Most of them are characters, but the escapes of
a document can also name half of a pair of code units with no other half beside it, and such a half
is kept.  `Document` is a piece of data whose texts are sequences of code points.

The checker works on `Value`, whose texts are strings.  `Document.toValue` shows a half by the
replacement character; `Document.ofValue` goes the other way and loses nothing.
-/

namespace DefUse.Json

/-- **A code point**: a character, or the first or the second half of a pair on its own. -/
inductive CodePoint where
  | char (c : Char)
  | high (n : Fin 0x400)
  | low (n : Fin 0x400)
  deriving DecidableEq, Repr, Inhabited

namespace CodePoint

/-- The code point of a code unit. -/
def ofUnit (n : Nat) : CodePoint :=
  if 0xD800 ≤ n ∧ n < 0xDC00 then high (Fin.ofNat 0x400 (n - 0xD800))
  else if 0xDC00 ≤ n ∧ n < 0xE000 then low (Fin.ofNat 0x400 (n - 0xDC00))
  else char (Char.ofNat n)

/-- The character that two halves make. -/
def pair (high low : Fin 0x400) : Char := Char.ofNat (0x10000 + high * 0x400 + low)

/-- The character that shows a code point. -/
def toChar : CodePoint → Char
  | char c => c
  | high _ | low _ => '�'

end CodePoint

/-- **A text of a document.** -/
abbrev Text := List CodePoint

namespace Text

/-- A string as a text. -/
def ofString (s : String) : Text := s.toList.map .char

/-- The string that shows a text. -/
def toString (t : Text) : String := String.ofList (t.map CodePoint.toChar)

/-- A first half and a second one right after it are one character. -/
def joinHalves : Text → Text
  | .high h :: .low l :: rest => .char (CodePoint.pair h l) :: joinHalves rest
  | c :: rest => c :: joinHalves rest
  | [] => []

end Text

/-- **A piece of data as a document has it.** -/
inductive Document where
  | null
  | bool (b : Bool)
  | int (n : Int)
  | float (x : Double)
  | str (t : Text)
  | list (items : List Document)
  | record (fields : List (Text × Document))
  deriving Repr, Inhabited

namespace Document

/-- Store a document under a key: in place if the key is there, at the end otherwise. -/
def store (key : Text) (value : Document) : List (Text × Document) → List (Text × Document)
  | [] => [(key, value)]
  | (k, v) :: rest => if k = key then (k, value) :: rest else (k, v) :: store key value rest

mutual

/-- **The value that shows a document.** -/
def toValue : Document → Value
  | null => .null
  | bool b => .bool b
  | int n => .int n
  | float x => .float x
  | str t => .str t.toString
  | list items => .list (toValues items)
  | record fields => .record (toFields fields)

/-- The values that show documents. -/
def toValues : List Document → List Value
  | [] => []
  | d :: rest => d.toValue :: toValues rest

/-- The fields that show those of a document. -/
def toFields : List (Text × Document) → List (String × Value)
  | [] => []
  | (k, d) :: rest => (k.toString, d.toValue) :: toFields rest

end

mutual

/-- **A value as a document.** -/
def ofValue : Value → Document
  | .null => null
  | .bool b => bool b
  | .int n => int n
  | .float x => float x
  | .str s => str (.ofString s)
  | .list items => list (ofValues items)
  | .record fields => record (ofFields fields)

/-- Values as documents. -/
def ofValues : List Value → List Document
  | [] => []
  | v :: rest => ofValue v :: ofValues rest

/-- The fields of a value as those of a document. -/
def ofFields : List (String × Value) → List (Text × Document)
  | [] => []
  | (k, v) :: rest => (.ofString k, ofValue v) :: ofFields rest

end

end Document

/-! ## Long numbers

A whole number is neither read nor written if it has too many digits. -/

/-- The most digits that a whole number may have. -/
def maxDigits : Nat := 4300

/-- The number of decimal digits of a whole number. -/
def digitCount (n : Int) : Nat := (Nat.toDigits 10 n.natAbs).length

mutual

/-- Whether every whole number of a document can be written. -/
def Document.isWritable : Document → Bool
  | .int n => digitCount n ≤ maxDigits
  | .list items => areWritable items
  | .record fields => areWritableFields fields
  | _ => true

/-- Whether every whole number of some documents can be written. -/
def Document.areWritable : List Document → Bool
  | [] => true
  | d :: rest => d.isWritable && areWritable rest

/-- Whether every whole number of some fields can be written. -/
def Document.areWritableFields : List (Text × Document) → Bool
  | [] => true
  | (_, d) :: rest => d.isWritable && areWritableFields rest

end

end DefUse.Json
