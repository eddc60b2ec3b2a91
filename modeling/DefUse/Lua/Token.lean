import DefUse.Lua.Node

/-!
# Lua/Token — the words of a Lua source text

`Token.scan` cuts a source text into tokens, or fails on a character that starts none.  At every
place the longest token wins.  Numbers and quoted texts are read to their values here, so that
nothing after this stage looks at characters.
-/

namespace DefUse.Lua

/-- **A token.**  Reserved words and symbols are kept by their spelling. -/
inductive Token where
  | name (id : String)
  | keyword (word : String)
  | symbol (text : String)
  | numeral (n : Numeral)
  | text (s : String)
  deriving DecidableEq, Repr, Inhabited

/-- The words that are no names. -/
def reservedWords : List String :=
  ["and", "break", "do", "else", "elseif", "end", "false", "for", "function", "goto", "if", "in",
   "local", "nil", "not", "or", "repeat", "return", "then", "true", "until", "while"]

/-- The symbols, a longer one before those it starts with. -/
def symbols : List String :=
  ["...", "..", "==", "~=", "<=", ">=", "<<", ">>", "//", "::", "+", "-", "*", "/", "%", "^", "#",
   "&", "~", "|", "<", ">", "=", "(", ")", "\x7b", "\x7d", "[", "]", ";", ":", ",", "."]

/-- Whether a character may start a name. -/
def isNameStart (c : Char) : Bool := c.isAlpha || c = '_'

/-- Whether a character may stand in a name. -/
def isNamePart (c : Char) : Bool := isNameStart c || c.isDigit

/-- Whether a character separates tokens. -/
def isSpace (c : Char) : Bool := c = ' ' || c = '\t' || c = '\x0c' || c = '\r' || c = '\n'

/-- Whether a character ends a line. -/
def isLineEnd (c : Char) : Bool := c = '\r' || c = '\n'

/-! ## Numbers -/

/-- Whether a character is a hexadecimal digit. -/
def isHexDigit (c : Char) : Bool := c.isDigit || ('a' ≤ c && c ≤ 'f') || ('A' ≤ c && c ≤ 'F')

/-- The value of a digit, in bases up to sixteen. -/
def digitValue (c : Char) : Nat :=
  if c.isDigit then c.toNat - '0'.toNat
  else if 'a' ≤ c then c.toNat - 'a'.toNat + 10
  else c.toNat - 'A'.toNat + 10

/-- The value of a sequence of digits. -/
def digitsValue (base : Nat) (digits : List Char) : Nat :=
  digits.foldl (fun n c => n * base + digitValue c) 0

/-- An exponent after one of two letters, and what follows it; nothing without a digit. -/
def scanExponent (lower upper : Char) : List Char → Option (Int × List Char)
  | c :: rest =>
    if c = lower ∨ c = upper then
      let (negative, rest) :=
        match rest with
        | '-' :: rest => (true, rest)
        | '+' :: rest => (false, rest)
        | _ => (false, rest)
      let digits := rest.takeWhile Char.isDigit
      if digits.isEmpty then none
      else
        let n : Int := digitsValue 10 digits
        some (if negative then -n else n, rest.dropWhile Char.isDigit)
    else none
  | [] => none

/-- The most digits that a whole number in base ten may have. -/
def maxDigits : Nat := 4300

/-- The value of a run of decimal digits: a whole number, except that one written with a zero in
front of it, or with too many digits, is a double. -/
def wholeValue (digits : List Char) : Numeral :=
  let n := digitsValue 10 digits
  if (digits.head? = some '0' ∧ n ≠ 0) ∨ maxDigits < digits.length then
    .real (.ofDecimal false n 0)
  else .whole n

/-- A number in base ten: digits with a point and an exponent, each if it is there. -/
def scanDecimal (cs : List Char) : Numeral × List Char :=
  let whole := cs.takeWhile Char.isDigit
  let rest := cs.dropWhile Char.isDigit
  let (places, rest, pointed) :=
    match rest with
    | '.' :: rest => (rest.takeWhile Char.isDigit, rest.dropWhile Char.isDigit, true)
    | _ => ([], rest, false)
  match scanExponent 'e' 'E' rest with
  | some (power, rest) =>
    (.real (.ofDecimal false (digitsValue 10 (whole ++ places)) (power - places.length)), rest)
  | none =>
    if pointed then
      (.real (.ofDecimal false (digitsValue 10 (whole ++ places)) (-places.length)), rest)
    else (wholeValue whole, rest)

/-- What follows `0x`: a whole number in base sixteen.  A point or a binary exponent would make it
a fraction, which has no value here, so nothing is read then. -/
def scanHex? (cs : List Char) : Option (Numeral × List Char) :=
  let digits := cs.takeWhile isHexDigit
  let rest := cs.dropWhile isHexDigit
  if rest.head? = some '.' then none
  else if (scanExponent 'p' 'P' rest).isSome then none
  else some (.whole (digitsValue 16 digits), rest)

/-- Whether a hexadecimal number, whole or not, goes on after `0x`. -/
def startsHex : List Char → Bool
  | '.' :: c :: _ => isHexDigit c
  | c :: _ => isHexDigit c
  | [] => false

/-- A number that starts at the first character. -/
def scanNumber? : List Char → Option (Numeral × List Char)
  | '0' :: x :: rest =>
    if (x = 'x' ∨ x = 'X') ∧ startsHex rest then scanHex? rest
    else some (scanDecimal ('0' :: x :: rest))
  | cs => some (scanDecimal cs)

/-! ## Texts -/

/-- The characters a code point above the last one is shown by: one replacement character for each
byte of its encoding, which goes up to six bytes; the same for the halves of a pair. -/
def codePoint (n : Nat) : List Char :=
  if n.isValidChar then [Char.ofNat n]
  else List.replicate
    (if n < 0x10000 then 3 else if n < 0x200000 then 4 else if n < 0x4000000 then 5 else 6) '�'

/-- The character a letter or sign after a backslash stands for, an empty list for those that stand
for nothing. -/
def simpleEscape? : Char → Option (List Char)
  | 'a' => some ['\x07']
  | 'b' => some ['\x08']
  | 'f' => some ['\x0c']
  | 'n' => some ['\n']
  | 'r' => some ['\r']
  | 't' => some ['\t']
  | 'v' => some ['\x0b']
  | '\\' => some ['\\']
  | '"' => some ['"']
  | '\'' => some ['\'']
  | '|' => some []
  | '$' => some []
  | '#' => some []
  | '\n' => some []
  | _ => none

/-- Whether a character is skipped after the escape `\z`. -/
def isSkipped (c : Char) : Bool :=
  (0x09 ≤ c.toNat && c.toNat ≤ 0x0D) || (0x1C ≤ c.toNat && c.toNat ≤ 0x20)

/-- The number between the braces of a Unicode escape, and what follows: one to eight hexadecimal
digits, below `2 ^ 31`. -/
def scanBraced? : List Char → Option (Nat × List Char)
  | '\x7b' :: rest =>
    let digits := rest.takeWhile isHexDigit
    let n := digitsValue 16 digits
    if digits.isEmpty ∨ 8 < digits.length ∨ Nat.pow 2 31 ≤ n then none
    else
      match rest.dropWhile isHexDigit with
      | '\x7d' :: rest => some (n, rest)
      | _ => none
  | _ => none

/-- What an escape stands for, from after its backslash, and what follows it. -/
def scanEscape? : List Char → Option (List Char × List Char)
  | 'z' :: rest => some ([], rest.dropWhile isSkipped)
  | 'x' :: a :: b :: rest =>
    if isHexDigit a && isHexDigit b then some (codePoint (digitsValue 16 [a, b]), rest) else none
  | 'u' :: rest => (scanBraced? rest).map fun (n, rest) => (codePoint n, rest)
  | '\r' :: '\n' :: rest => some (['\n'], rest)
  | c :: rest =>
    if c.isDigit then
      let digits := (c :: rest).takeWhile Char.isDigit |>.take 3
      some (codePoint (digitsValue 10 digits), (c :: rest).drop digits.length)
    else (simpleEscape? c).map fun s => (s, rest)
  | [] => none

/-- A quoted text up to its closing quote, `done` being what was read before, the last character
first.  The number bounds the characters left. -/
def scanQuoted? (quote : Char) : Nat → List Char → List Char → Option (String × List Char)
  | 0, _, _ => none
  | _, _, [] => none
  | fuel + 1, done, c :: rest =>
    if c = quote then some (String.ofList done.reverse, rest)
    else if c = '\\' then do
      let (s, rest) ← scanEscape? rest
      scanQuoted? quote fuel (s.reverse ++ done) rest
    else scanQuoted? quote fuel (c :: done) rest

/-- The level of a long bracket that opens at the first character, and what follows it. -/
def longOpening? : List Char → Option (Nat × List Char)
  | '[' :: rest =>
    match rest.dropWhile (· = '=') with
    | '[' :: body => some ((rest.takeWhile (· = '=')).length, body)
    | _ => none
  | _ => none

/-- The closing long bracket of a level. -/
def longClosing (level : Nat) : List Char := ']' :: List.replicate level '=' ++ [']']

/-- The text up to the first closing bracket of a level, and what follows it. -/
def longBody? (level : Nat) : List Char → Option (List Char × List Char)
  | [] => none
  | c :: rest =>
    if (longClosing level).isPrefixOf (c :: rest) then
      some ([], (c :: rest).drop (level + 2))
    else (longBody? level rest).map fun (body, rest) => (c :: body, rest)

/-! ## Tokens -/

/-- What follows a comment, from after its two dashes: a long bracket if one opens there, else the
rest of the line. -/
def skipComment? (cs : List Char) : Option (List Char) :=
  match longOpening? cs with
  | some (level, body) => (longBody? level body).map (·.2)
  | none => some (cs.dropWhile (!isLineEnd ·))

/-- The symbol at the first character, and what follows it. -/
def scanSymbol? (cs : List Char) : Option (Token × List Char) :=
  (symbols.find? (·.toList.isPrefixOf cs)).map fun s => (.symbol s, cs.drop s.length)

/-- The name or reserved word at the first character, and what follows it. -/
def scanWord (cs : List Char) : Token × List Char :=
  let word := String.ofList (cs.takeWhile isNamePart)
  (if reservedWords.contains word then .keyword word else .name word, cs.dropWhile isNamePart)

/-- The token at the first character, which is no space and starts no comment. -/
def scanToken? : List Char → Option (Token × List Char)
  | [] => none
  | c :: rest =>
    if isNameStart c then some (scanWord (c :: rest))
    else if c.isDigit || (c = '.' && (rest.head?.map Char.isDigit).getD false) then
      (scanNumber? (c :: rest)).map fun (n, rest) => (.numeral n, rest)
    else if c = '"' ∨ c = '\'' then
      (scanQuoted? c (rest.length + 1) [] rest).map fun (s, rest) => (.text s, rest)
    else
      match longOpening? (c :: rest) with
      | some (level, body) =>
        (longBody? level body).map fun (s, rest) => (.text (String.ofList s), rest)
      | none => scanSymbol? (c :: rest)

/-- The tokens of a text, whose length the number bounds. -/
def scanAll? : Nat → List Char → Option (List Token)
  | _, [] => some []
  | 0, _ => none
  | fuel + 1, c :: rest =>
    if isSpace c then scanAll? fuel rest
    else
      match c, rest with
      | '-', '-' :: comment => do scanAll? fuel (← skipComment? comment)
      | _, _ => do
        let (t, rest) ← scanToken? (c :: rest)
        return t :: (← scanAll? fuel rest)

/-- What is left when a first line that starts with `#` and says more is skipped. -/
def skipFirstLine : List Char → List Char
  | '#' :: c :: rest => if isLineEnd c then '#' :: c :: rest else rest.dropWhile (!isLineEnd ·)
  | cs => cs

/-- **The tokens of a source text.** -/
def Token.scan? (source : String) : Option (List Token) :=
  let cs := skipFirstLine source.toList
  scanAll? (cs.length + 1) cs

end DefUse.Lua
