import DefUse.Console.Screen
import DefUse.Libraries
import DefUse.Lua.Grammar
import DefUse.Settings.Kinds
import DefUse.Toml.Document

/-!
# Standard — the libraries of a run

The parser, the reader of settings files, the validator and the console that the program runs with.
The first two tell that a text is malformed, and not in what way.
-/

namespace DefUse

/-- The syntax of a source text. -/
def Lua.parse (source : String) : Except String Root :=
  match Lua.parse? source with
  | some root => .ok root
  | none => .error "syntax error"

/-- The fields of a settings file. -/
def Toml.read (text : String) : Except Error (List (String × Datum)) :=
  match Toml.read? text with
  | some fields => .ok fields
  | none => .error (.malformed "invalid TOML")

/-- **The libraries of a run.** -/
instance : Libraries where
  parseLua := Lua.parse
  readToml := Toml.read
  validator := strict
  console := screen

end DefUse
