import DefUse.Value.Basic

/-!
# Console/Log — what is put on a console

Three kinds of things are put on a console: log records, values that are printed side by side, and
tables.  A record has a level and a text; levels are ordered, and a record below the threshold in
force is not printed.  Texts may be marked, which is the console's business.

`Console` is all that is known of a console: how a text is written so that its marks are not taken
for marks, and the lines that each of these things takes, unless it cannot be shown.
-/

namespace DefUse

/-- **How much a record matters.** -/
inductive Level where
  | debug
  | info
  | success
  | warning
  | error
  deriving DecidableEq, Repr

namespace Level

/-- The number that orders the levels. -/
def rank : Level → Nat
  | debug => 10
  | info => 20
  | success => 25
  | warning => 30
  | error => 40

/-- The name of a level. -/
def name : Level → String
  | debug => "DEBUG"
  | info => "INFO"
  | success => "SUCCESS"
  | warning => "WARNING"
  | error => "ERROR"

/-- What stands before a message of a level. -/
def sign : Level → String
  | debug => ""
  | info => "ℹ️  "
  | success => "✅ "
  | warning => "⚠️  "
  | error => "❌ "

end Level

/-- **A log record**: its level and its marked text. -/
structure Record where
  level : Level
  text : String
  deriving DecidableEq, Repr

namespace Record

/-- A message of a level, with the sign of the level before it. -/
def message (level : Level) (text : String) : Record := ⟨level, level.sign ++ text⟩

end Record

/-- Which side of a column its cells are on. -/
inductive Side where
  | left
  | right
  deriving DecidableEq, Repr

/-- **A table**: its title, the header of each column with the side its cells are on, and for each
row the marked text of each cell. -/
structure Table where
  title : String
  columns : List (String × Side)
  rows : List (List String)
  deriving DecidableEq, Repr

/-- **Why something cannot be shown**: a mark that is out of place, a character that the console
does not have, or what else a console may refuse. -/
inductive Fault where
  | markup
  | encoding
  | other (reason : String)
  deriving DecidableEq, Repr

/-- **A console.** -/
structure Console where
  /-- A text as it has to be written to be shown as it stands. -/
  escape : String → String
  /-- The lines of a record. -/
  record : Record → Except Fault (List String)
  /-- The lines of printed values. -/
  printed : List Value → Except Fault (List String)
  /-- The lines of a table. -/
  table : Table → Except Fault (List String)

end DefUse
