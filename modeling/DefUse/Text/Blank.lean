/-!
# Text/Blank — blank characters, words and line ends

The blanks of every script, not only those of ASCII: they separate the words of a plain list of
names and are cut from the end of a printed line.
-/

namespace DefUse

/-- Whether a character is blank. -/
def isBlank (c : Char) : Bool :=
  let n := c.toNat
  (0x09 ≤ n && n ≤ 0x0D) || (0x1C ≤ n && n ≤ 0x20) || n == 0x85 || n == 0xA0 || n == 0x1680 ||
  (0x2000 ≤ n && n ≤ 0x200A) || n == 0x2028 || n == 0x2029 || n == 0x202F || n == 0x205F ||
  n == 0x3000

/-- Gather the words of a text, `word` being the one under way, last character first. -/
def wordsFrom (word : List Char) : List Char → List String
  | [] => if word.isEmpty then [] else [String.ofList word.reverse]
  | c :: rest =>
    if isBlank c then
      if word.isEmpty then wordsFrom [] rest
      else String.ofList word.reverse :: wordsFrom [] rest
    else wordsFrom (c :: word) rest

/-- **The words of a text**: its longest runs without a blank, in order. -/
def words (text : String) : List String := wordsFrom [] text.toList

/-- A line without the blanks at its end. -/
def trimEnd (line : String) : String :=
  String.ofList (line.toList.reverse.dropWhile isBlank).reverse

/-- Cut a text at every occurrence of a character: one piece more than there are occurrences. -/
def splitAt (sep : Char) : List Char → List (List Char)
  | [] => [[]]
  | c :: rest =>
    if c = sep then [] :: splitAt sep rest
    else
      match splitAt sep rest with
      | [] => [[c]]
      | piece :: pieces => (c :: piece) :: pieces

/-- The lines of a text, without their line feeds; the last one is empty if the text ends in a
line feed. -/
def lines (text : String) : List String := (splitAt '\n' text.toList).map String.ofList

end DefUse
