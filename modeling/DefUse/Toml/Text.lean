import DefUse.Settings.Datum

/-!
# Toml/Text — the texts, numbers and moments of a settings file

Readers of the parts of a TOML document that hold no other parts.  Each takes the characters that
are left and gives what it read and what follows, or nothing if the document is not TOML.
-/

namespace DefUse.Toml

/-- Blanks within a line. -/
def isSpace (c : Char) : Bool := c = ' ' || c = '\t'

/-- Blanks and line feeds. -/
def isSpaceOrLine (c : Char) : Bool := isSpace c || c = '\n'

/-- What is left after blanks. -/
def skipSpaces (cs : List Char) : List Char := cs.dropWhile isSpace

/-- Whether a control character may not stand in comments and texts of one line. -/
def isIllegal (c : Char) : Bool := (c.toNat < 32 && c ≠ '\t') || c.toNat = 127

/-- Whether a control character may not stand in texts of many lines. -/
def isIllegalInLines (c : Char) : Bool := isIllegal c && c ≠ '\n'

/-- What is left after a comment, if there is one here. -/
def skipComment? : List Char → Option (List Char)
  | '#' :: rest =>
    let body := rest.takeWhile (· ≠ '\n')
    if body.any isIllegal then none else some (rest.dropWhile (· ≠ '\n'))
  | cs => some cs

/-- What is left after blanks, line feeds and comments.  The number bounds the characters. -/
def skipFiller? : Nat → List Char → Option (List Char)
  | 0, cs => some cs
  | fuel + 1, cs =>
    match cs.dropWhile isSpaceOrLine with
    | '#' :: rest => do skipFiller? fuel (← skipComment? ('#' :: rest))
    | rest => some rest

/-! ## Texts -/

/-- The value of a hexadecimal digit. -/
def hexDigit? (c : Char) : Option Nat :=
  if c.isDigit then some (c.toNat - '0'.toNat)
  else if 'a' ≤ c ∧ c ≤ 'f' then some (c.toNat - 'a'.toNat + 10)
  else if 'A' ≤ c ∧ c ≤ 'F' then some (c.toNat - 'A'.toNat + 10)
  else none

/-- The character a number of hexadecimal digits stand for. -/
def readCode? (digits : Nat) (cs : List Char) : Option (Char × List Char) := do
  let values ← (cs.take digits).mapM hexDigit?
  if values.length ≠ digits then none
  else
    let n := values.foldl (fun n d => n * 16 + d) 0
    if n.isValidChar then return (Char.ofNat n, cs.drop digits) else none

/-- The character a letter after a backslash stands for. -/
def simpleEscape? : Char → Option Char
  | 'b' => some '\x08'
  | 't' => some '\t'
  | 'n' => some '\n'
  | 'f' => some '\x0c'
  | 'r' => some '\r'
  | '"' => some '"'
  | '\\' => some '\\'
  | _ => none

/-- What a backslash at the end of a line skips, from after the backslash: the blanks up to the
line feed, and all blanks and line feeds after it. -/
def skipLineEnd? (cs : List Char) : Option (List Char) :=
  match skipSpaces cs with
  | [] => some []
  | '\n' :: rest => some (rest.dropWhile isSpaceOrLine)
  | _ => none

/-- What an escape stands for, from after its backslash. -/
def readEscape? (lines : Bool) : List Char → Option (List Char × List Char)
  | 'u' :: rest => (readCode? 4 rest).map fun (c, rest) => ([c], rest)
  | 'U' :: rest => (readCode? 8 rest).map fun (c, rest) => ([c], rest)
  | c :: rest =>
    if lines && isSpaceOrLine c then (skipLineEnd? (c :: rest)).map fun rest => ([], rest)
    else (simpleEscape? c).map fun e => ([e], rest)
  | [] => none

/-- A text with escapes up to its closing quotes.  `done` is what was read, the last character
first, and the number bounds the characters left. -/
def readBasic? (lines : Bool) : Nat → List Char → List Char → Option (List Char × List Char)
  | 0, _, _ => none
  | _, _, [] => none
  | fuel + 1, done, c :: rest =>
    if c = '"' then
      if !lines then some (done.reverse, rest)
      else
        match rest with
        | '"' :: '"' :: rest => some (done.reverse, rest)
        | _ => readBasic? lines fuel (c :: done) rest
    else if c = '\\' then do
      let (s, rest) ← readEscape? lines rest
      readBasic? lines fuel (s.reverse ++ done) rest
    else if if lines then isIllegalInLines c else isIllegal c then none
    else readBasic? lines fuel (c :: done) rest

/-- A text without escapes on one line, from after its opening quote. -/
def readLiteral? (cs : List Char) : Option (List Char × List Char) :=
  let body := cs.takeWhile (· ≠ '\'')
  match cs.dropWhile (· ≠ '\'') with
  | _ :: rest => if body.any isIllegal then none else some (body, rest)
  | [] => none

/-- A text without escapes on many lines, up to three quotes. -/
def readLiteralLines? : List Char → Option (List Char × List Char)
  | [] => none
  | '\'' :: '\'' :: '\'' :: rest => some ([], rest)
  | c :: rest =>
    if isIllegalInLines c then none
    else (readLiteralLines? rest).map fun (body, rest) => (c :: body, rest)

/-- Up to two more closing quotes of a text on many lines belong to the text. -/
def extraQuotes (quote : Char) (body : List Char) : List Char → List Char × List Char
  | a :: b :: rest =>
    if a = quote ∧ b = quote then (body ++ [a, b], rest)
    else if a = quote then (body ++ [a], b :: rest)
    else (body, a :: b :: rest)
  | [a] => if a = quote then (body ++ [a], []) else (body, [a])
  | [] => (body, [])

/-- A line feed right after the opening quotes of a text on many lines is dropped. -/
def dropFirstLine : List Char → List Char
  | '\n' :: rest => rest
  | cs => cs

/-- A text of any of the four forms. -/
def readText? : List Char → Option (String × List Char)
  | '"' :: '"' :: '"' :: rest => do
    let body := dropFirstLine rest
    let (s, rest) ← readBasic? true (body.length + 1) [] body
    let (s, rest) := extraQuotes '"' s rest
    return (String.ofList s, rest)
  | '\'' :: '\'' :: '\'' :: rest => do
    let (s, rest) ← readLiteralLines? (dropFirstLine rest)
    let (s, rest) := extraQuotes '\'' s rest
    return (String.ofList s, rest)
  | '"' :: rest => (readBasic? false (rest.length + 1) [] rest).map fun (s, rest) =>
    (String.ofList s, rest)
  | '\'' :: rest => (readLiteral? rest).map fun (s, rest) => (String.ofList s, rest)
  | _ => none

/-! ## Numbers -/

/-- Digits of a kind with single underscores between them: the digits, and what follows. -/
def readDigits (isDigit : Char → Bool) : List Char → List Char × List Char
  | [] => ([], [])
  | '_' :: c :: rest =>
    if isDigit c then
      let (more, left) := readDigits isDigit rest
      (c :: more, left)
    else ([], '_' :: c :: rest)
  | c :: rest =>
    if isDigit c then
      let (more, left) := readDigits isDigit rest
      (c :: more, left)
    else ([], c :: rest)

/-- At least one digit, the first without an underscore before it. -/
def readRun? (isDigit : Char → Bool) : List Char → Option (List Char × List Char)
  | c :: rest =>
    if isDigit c then
      let (more, left) := readDigits isDigit rest
      some (c :: more, left)
    else none
  | [] => none

/-- The value of digits in a base. -/
def digitsValue (base : Nat) (digits : List Char) : Nat :=
  digits.foldl (fun n c => n * base + (hexDigit? c).getD 0) 0

/-- The base a letter after a zero stands for. -/
def baseOf? : Char → Option Nat
  | 'x' => some 16
  | 'o' => some 8
  | 'b' => some 2
  | _ => none

/-- Whether a character is a digit in a base. -/
def isDigitIn (base : Nat) (c : Char) : Bool := (hexDigit? c).any fun n => decide (n < base)

/-- A whole number in another base than ten. -/
def readBased? : List Char → Option (Datum × List Char)
  | '0' :: letter :: rest => do
    let base ← baseOf? letter
    let (digits, rest) ← readRun? (isDigitIn base) rest
    return (.int (digitsValue base digits), rest)
  | _ => none

/-- A sign, if there is one, and what follows. -/
def readSign : List Char → Bool × List Char
  | '-' :: rest => (true, rest)
  | '+' :: rest => (false, rest)
  | cs => (false, cs)

/-- The digits before a point: a lone zero, or digits that do not start with one. -/
def readWhole? : List Char → Option (List Char × List Char)
  | '0' :: rest => some (['0'], rest)
  | cs => readRun? Char.isDigit cs

/-- The digits after a point. -/
def readFraction? : List Char → Option (List Char × List Char)
  | '.' :: rest => readRun? Char.isDigit rest
  | _ => none

/-- A power of ten. -/
def readPower? : List Char → Option (Int × List Char)
  | c :: rest =>
    if c = 'e' ∨ c = 'E' then do
      let (negative, rest) := readSign rest
      let (digits, rest) ← readRun? Char.isDigit rest
      let n : Int := digitsValue 10 digits
      return (if negative then -n else n, rest)
    else none
  | [] => none

/-- A number in base ten: whole unless it has a fraction or a power. -/
def readDecimal? (cs : List Char) : Option (Datum × List Char) := do
  let (negative, cs) := readSign cs
  let (whole, cs) ← readWhole? cs
  let fraction := readFraction? cs
  let cs := (fraction.map (·.2)).getD cs
  let power := readPower? cs
  let cs := (power.map (·.2)).getD cs
  if fraction.isNone && power.isNone then
    let n : Int := digitsValue 10 whole
    return (.int (if negative then -n else n), cs)
  else
    let places := (fraction.map (·.1)).getD []
    let exponent := (power.map (·.1)).getD 0 - places.length
    return (.float (.ofDecimal negative (digitsValue 10 (whole ++ places)) exponent), cs)

/-- The words for numbers that are not finite, with their signs. -/
def readSpecial? (cs : List Char) : Option (Datum × List Char) :=
  let (negative, cs) := readSign cs
  match cs with
  | 'i' :: 'n' :: 'f' :: rest => some (.float (.infinite negative), rest)
  | 'n' :: 'a' :: 'n' :: rest => some (.float .nan, rest)
  | _ => none

/-! ## Moments -/

/-- A fixed number of decimal digits. -/
def readFixed? (count : Nat) (cs : List Char) : Option (Nat × List Char) :=
  let digits := cs.take count
  if digits.length = count ∧ digits.all Char.isDigit then
    some (digitsValue 10 digits, cs.drop count)
  else none

/-- A given character. -/
def expect? (c : Char) : List Char → Option (List Char)
  | d :: rest => if d = c then some rest else none
  | [] => none

/-- A day, with a month up to twelve and a day up to thirty-one. -/
def readDate? (cs : List Char) : Option (Date × List Char) := do
  let (year, cs) ← readFixed? 4 cs
  let (month, cs) ← readFixed? 2 (← expect? '-' cs)
  let (day, cs) ← readFixed? 2 (← expect? '-' cs)
  if 1 ≤ month ∧ month ≤ 12 ∧ 1 ≤ day ∧ day ≤ 31 then return (⟨year, month, day⟩, cs) else none

/-- The microseconds that the digits after a point stand for; only six of them count. -/
def readMicro (cs : List Char) : Nat × List Char :=
  match cs with
  | '.' :: rest =>
    let digits := rest.takeWhile Char.isDigit
    if digits.isEmpty then (0, cs)
    else
      let six := digits.take 6
      (digitsValue 10 six * Nat.pow 10 (6 - six.length), rest.dropWhile Char.isDigit)
  | _ => (0, cs)

/-- Hours and minutes. -/
def readClock? (cs : List Char) : Option (Nat × Nat × List Char) := do
  let (hour, cs) ← readFixed? 2 cs
  let (minute, cs) ← readFixed? 2 (← expect? ':' cs)
  if hour ≤ 23 ∧ minute ≤ 59 then return (hour, minute, cs) else none

/-- A time of day. -/
def readTime? (cs : List Char) : Option (Time × List Char) := do
  let (hour, minute, cs) ← readClock? cs
  let (second, cs) ← readFixed? 2 (← expect? ':' cs)
  if second ≤ 59 then
    let (micro, cs) := readMicro cs
    return (⟨hour, minute, second, micro⟩, cs)
  else none

/-- An offset from universal time, in minutes, if there is one. -/
def readOffset (cs : List Char) : Option Int × List Char :=
  match cs with
  | [] => (none, [])
  | c :: rest =>
    if c = 'Z' ∨ c = 'z' then (some 0, rest)
    else if c = '+' ∨ c = '-' then
      match readClock? rest with
      | some (hour, minute, rest) =>
        let minutes : Int := hour * 60 + minute
        (some (if c = '-' then -minutes else minutes), rest)
      | none => (none, cs)
    else (none, cs)

/-- The time after a date, if there is one. -/
def readTimeAfter? : List Char → Option (Time × List Char)
  | c :: rest => if c = 'T' ∨ c = 't' ∨ c = ' ' then readTime? rest else none
  | [] => none

/-- A moment.  The outer result says whether one starts here, the inner one whether its date is in
the calendar. -/
def readMoment? (cs : List Char) : Option (Option (Datum × List Char)) :=
  match readDate? cs with
  | some (date, cs) =>
    let (moment, cs) :=
      match readTimeAfter? cs with
      | some (time, cs) =>
        let (offset, cs) := readOffset cs
        (Moment.dateTime date time offset, cs)
      | none => (Moment.date date, cs)
    some (if date.isValid then some (.moment moment, cs) else none)
  | none => (readTime? cs).map fun (time, cs) => some (.moment (.time time), cs)

end DefUse.Toml
