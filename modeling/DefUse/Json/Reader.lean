import DefUse.Json.Document

/-!
# Json/Reader — reading a JSON document

`Json.readDocument` turns a text into a `Document` or says what is wrong and where.  Beyond the
standard it takes `NaN`, `Infinity` and `-Infinity`; a repeated key keeps its first place and its
last value.  A whole number of too many digits ends the reading at once, wherever it stands.

Every reading function takes the characters that are left and returns those it leaves, so a place
in the text is a suffix of it, and a fault carries the suffix that starts where it was met.  The
number each function recurses on bounds how deep the calls nest: each character that is left allows
for two calls, which is enough.
-/

namespace DefUse.Json

/-- What can be wrong with a document. -/
inductive Problem where
  | value
  | propertyName
  | colon
  | comma
  | extraData
  | unterminatedText
  | controlCharacter
  | escape
  | unicodeEscape
  | byteOrderMark
  deriving DecidableEq, Repr

/-- The words for a problem. -/
def Problem.text : Problem → String
  | value => "Expecting value"
  | propertyName => "Expecting property name enclosed in double quotes"
  | colon => "Expecting ':' delimiter"
  | comma => "Expecting ',' delimiter"
  | extraData => "Extra data"
  | unterminatedText => "Unterminated string starting at"
  | controlCharacter => "Invalid control character at"
  | escape => "Invalid \\escape"
  | unicodeEscape => "Invalid \\uXXXX escape"
  | byteOrderMark => "Unexpected UTF-8 BOM (decode using utf-8-sig)"

/-- **Why reading ends**: a problem and what is left of the text from the place where it was met, or
a whole number with too many digits. -/
inductive Fault where
  | problem (p : Problem) (rest : List Char)
  | tooLong (digits : Nat)

/-- **Why a text is not a document**: the problem and its place, lines and columns counted from
one and the offset from zero. -/
structure SyntaxError where
  problem : Problem
  line : Nat
  column : Nat
  offset : Nat
  deriving DecidableEq, Repr

/-- The message of a problem in its place. -/
def SyntaxError.message (e : SyntaxError) : String :=
  s!"{e.problem.text}: line {e.line} column {e.column} (char {e.offset})"

/-- **Why a document is not read.** -/
inductive Error where
  | notADocument (e : SyntaxError)
  | tooLong (digits : Nat)
  deriving DecidableEq, Repr

/-- The message about a whole number with too many digits. -/
def tooLongMessage (digits : Nat) : String :=
  s!"Exceeds the limit ({maxDigits} digits) for integer string conversion: value has {digits} " ++
    "digits; use sys.set_int_max_str_digits() to increase the limit"

/-- The message of an error. -/
def Error.message : Error → String
  | notADocument e => e.message
  | tooLong digits => tooLongMessage digits

/-- Give a fault its place in the whole text. -/
def Fault.locate (input : List Char) : Fault → Error
  | problem p rest =>
    let offset := input.length - rest.length
    let before := input.take offset
    .notADocument
      { problem := p
        line := before.count '\n' + 1
        column := (before.reverse.takeWhile (· ≠ '\n')).length + 1
        offset }
  | tooLong digits => .tooLong digits

/-- Whether a character may stand between the parts of a document. -/
def isSpace (c : Char) : Bool := c = ' ' || c = '\t' || c = '\n' || c = '\r'

/-- What is left after the spaces. -/
def skipSpaces (cs : List Char) : List Char := cs.dropWhile isSpace

/-! ## Texts -/

/-- The value of a hexadecimal digit. -/
def hexDigit? (c : Char) : Option Nat :=
  if '0' ≤ c ∧ c ≤ '9' then some (c.toNat - '0'.toNat)
  else if 'a' ≤ c ∧ c ≤ 'f' then some (c.toNat - 'a'.toNat + 10)
  else if 'A' ≤ c ∧ c ≤ 'F' then some (c.toNat - 'A'.toNat + 10)
  else none

/-- The number four hexadecimal digits stand for. -/
def hexUnit? (a b c d : Char) : Option Nat := do
  return (((← hexDigit? a) * 16 + (← hexDigit? b)) * 16 + (← hexDigit? c)) * 16 + (← hexDigit? d)

/-- The character a letter after a backslash stands for. -/
def simpleEscape? : Char → Option Char
  | '"' => some '"'
  | '\\' => some '\\'
  | '/' => some '/'
  | 'b' => some '\x08'
  | 'f' => some '\x0c'
  | 'n' => some '\n'
  | 'r' => some '\r'
  | 't' => some '\t'
  | _ => none

/-- Read a text up to its closing quote.  `opening` is the rest of the document from the opening
quote on, `done` the code points read so far, the last one first. -/
def readText (opening : List Char) (done : Text) : List Char → Except Fault (Text × List Char)
  | [] => .error (.problem .unterminatedText opening)
  | '"' :: rest => .ok (Text.joinHalves done.reverse, rest)
  | '\\' :: 'u' :: a :: b :: c :: d :: rest =>
    match hexUnit? a b c d with
    | some unit =>
      if rest.isEmpty then .error (.problem .unicodeEscape ('u' :: a :: b :: c :: d :: rest))
      else readText opening (.ofUnit unit :: done) rest
    | none => .error (.problem .unicodeEscape ('u' :: a :: b :: c :: d :: rest))
  | '\\' :: 'u' :: rest => .error (.problem .unicodeEscape ('u' :: rest))
  | ['\\'] => .error (.problem .unterminatedText opening)
  | '\\' :: c :: rest =>
    match simpleEscape? c with
    | some e => readText opening (.char e :: done) rest
    | none => .error (.problem .escape ('\\' :: c :: rest))
  | c :: rest =>
    if c.toNat < 0x20 then .error (.problem .controlCharacter (c :: rest))
    else readText opening (.char c :: done) rest

/-! ## Numbers -/

/-- The number a sequence of decimal digits stands for. -/
def digitsValue (digits : List Char) : Nat :=
  digits.foldl (fun n c => n * 10 + (c.toNat - '0'.toNat)) 0

/-- The digits after a point, and what follows; nothing unless there is one at least. -/
def readFraction : List Char → Option (List Char × List Char)
  | '.' :: rest =>
    let digits := rest.takeWhile Char.isDigit
    if digits.isEmpty then none else some (digits, rest.dropWhile Char.isDigit)
  | _ => none

/-- The power of ten after an `e`, and what follows; nothing unless it has a digit. -/
def readExponent : List Char → Option (Int × List Char)
  | c :: rest =>
    if c = 'e' ∨ c = 'E' then
      let (negative, rest) :=
        match rest with
        | '-' :: rest => (true, rest)
        | '+' :: rest => (false, rest)
        | _ => (false, rest)
      let digits := rest.takeWhile Char.isDigit
      if digits.isEmpty then none
      else
        let n : Int := digitsValue digits
        some (if negative then -n else n, rest.dropWhile Char.isDigit)
    else none
  | [] => none

/-- The digits before the point: a lone zero, or digits that do not start with one. -/
def readWhole : List Char → Option (List Char × List Char)
  | '0' :: rest => some (['0'], rest)
  | cs =>
    let digits := cs.takeWhile Char.isDigit
    if digits.isEmpty then none else some (digits, cs.dropWhile Char.isDigit)

/-- Whether a number starts with a minus sign, and what follows it. -/
def splitSign : List Char → Bool × List Char
  | '-' :: rest => (true, rest)
  | cs => (false, cs)

/-- Read a number, as far as it goes.  It is whole unless it has a fraction or an exponent. -/
def readNumber (cs : List Char) : Except Fault (Document × List Char) :=
  let (negative, start) := splitSign cs
  match readWhole start with
  | none => .error (.problem .value cs)
  | some (whole, rest) =>
    let fraction := readFraction rest
    let rest := (fraction.map (·.2)).getD rest
    let exponent := readExponent rest
    let rest := (exponent.map (·.2)).getD rest
    if fraction.isNone && exponent.isNone then
      let n : Int := digitsValue whole
      if maxDigits < whole.length then .error (.tooLong whole.length)
      else .ok (.int (if negative then -n else n), rest)
    else
      let places := (fraction.map (·.1)).getD []
      let power := (exponent.map (·.1)).getD 0
      let digits := digitsValue (whole ++ places)
      .ok (.float (.ofDecimal negative digits (power - places.length)), rest)

/-! ## Values -/

mutual

/-- Read a value that starts at the first character. -/
def readValue : Nat → List Char → Except Fault (Document × List Char)
  | 0, cs => .error (.problem .value cs)
  | fuel + 1, cs =>
    match cs with
    | '"' :: rest => do
      let (t, rest) ← readText cs [] rest
      return (.str t, rest)
    | '\x7b' :: rest =>
      match skipSpaces rest with
      | '\x7d' :: rest => .ok (.record [], rest)
      | rest => readMembers fuel [] rest
    | '[' :: rest =>
      match skipSpaces rest with
      | ']' :: rest => .ok (.list [], rest)
      | rest => readItems fuel [] rest
    | 'n' :: 'u' :: 'l' :: 'l' :: rest => .ok (.null, rest)
    | 't' :: 'r' :: 'u' :: 'e' :: rest => .ok (.bool true, rest)
    | 'f' :: 'a' :: 'l' :: 's' :: 'e' :: rest => .ok (.bool false, rest)
    | 'N' :: 'a' :: 'N' :: rest => .ok (.float .nan, rest)
    | 'I' :: 'n' :: 'f' :: 'i' :: 'n' :: 'i' :: 't' :: 'y' :: rest =>
      .ok (.float (.infinite false), rest)
    | '-' :: 'I' :: 'n' :: 'f' :: 'i' :: 'n' :: 'i' :: 't' :: 'y' :: rest =>
      .ok (.float (.infinite true), rest)
    | cs => readNumber cs

/-- Read the items of a list from the start of one on, `done` being those before it, the last one
first. -/
def readItems : Nat → List Document → List Char → Except Fault (Document × List Char)
  | 0, _, cs => .error (.problem .value cs)
  | fuel + 1, done, cs => do
    let (d, rest) ← readValue fuel cs
    match skipSpaces rest with
    | ']' :: rest => return (.list (d :: done).reverse, rest)
    | ',' :: rest => readItems fuel (d :: done) (skipSpaces rest)
    | rest => throw (.problem .comma rest)

/-- Read the members of a record from the start of one on, `done` being the fields before it. -/
def readMembers : Nat → List (Text × Document) → List Char → Except Fault (Document × List Char)
  | 0, _, cs => .error (.problem .propertyName cs)
  | fuel + 1, done, cs =>
    match cs with
    | '"' :: rest => do
      let (key, rest) ← readText cs [] rest
      match skipSpaces rest with
      | ':' :: rest => do
        let (d, rest) ← readValue fuel (skipSpaces rest)
        let fields := Document.store key d done
        match skipSpaces rest with
        | '\x7d' :: rest => return (.record fields, rest)
        | ',' :: rest => readMembers fuel fields (skipSpaces rest)
        | rest => throw (.problem .comma rest)
      | rest => throw (.problem .colon rest)
    | cs => .error (.problem .propertyName cs)

end

/-- Read the characters of a whole document. -/
def readChars (input : List Char) : Except Fault Document := do
  if input.head? = some '﻿' then throw (.problem .byteOrderMark input)
  let (d, rest) ← readValue (2 * input.length + 1) (skipSpaces input)
  let rest := skipSpaces rest
  if rest.isEmpty then return d else throw (.problem .extraData rest)

/-- **Read a JSON document.** -/
def readDocument (text : String) : Except Error Document :=
  (readChars text.toList).mapError (Fault.locate text.toList)

/-- Read a JSON document as a value. -/
def read (text : String) : Except Error Value := (readDocument text).map Document.toValue

end DefUse.Json
