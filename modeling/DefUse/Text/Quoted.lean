import DefUse.Text.Printable

/-!
# Text/Quoted — a text between quotes

Messages show a text between single quotes, or between double quotes if it holds a single quote
and no double one.  The quote in use and the backslash are written with a backslash before them,
the common control characters by a letter, and whatever does not show itself by its code.
-/

namespace DefUse

/-- A number in hexadecimal, lower case, padded with zeros to a width. -/
def hexPadded (width n : Nat) : String :=
  let digits := Nat.toDigits 16 n
  String.ofList (List.replicate (width - digits.length) '0' ++ digits)

namespace Quoted

/-- The quote a text is written between. -/
def quoteFor (s : String) : Char :=
  if s.contains '\'' && !s.contains '"' then '"' else '\''

/-- One character as it stands between quotes. -/
def escape (quote c : Char) : String :=
  if c = quote ∨ c = '\\' then String.ofList ['\\', c]
  else if c = '\n' then "\\n"
  else if c = '\r' then "\\r"
  else if c = '\t' then "\\t"
  else if isPrintable c then String.singleton c
  else if c.toNat ≤ 0xFF then "\\x" ++ hexPadded 2 c.toNat
  else if c.toNat ≤ 0xFFFF then "\\u" ++ hexPadded 4 c.toNat
  else "\\U" ++ hexPadded 8 c.toNat

end Quoted

/-- **A text between quotes.** -/
def quoted (s : String) : String :=
  let quote := Quoted.quoteFor s
  String.singleton quote ++ String.join (s.toList.map (Quoted.escape quote)) ++
    String.singleton quote

end DefUse
