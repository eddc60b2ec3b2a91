import DefUse.Console.Log
import DefUse.Lua.Node
import DefUse.Settings.Validate

/-!
# Libraries — what the program rests on

Four things the program does not do itself: it has Lua parsed, settings files read, the kinds of
settings told apart, and texts shown.  `Libraries` is what it knows of them.  Everything that
follows holds whatever they do, unless something is assumed of them by name; `Standard` has those
that a run of the program uses.
-/

namespace DefUse

/-- **Why a settings file is not read**: it is malformed, or something in it is refused for another
reason.  Both come with a text. -/
inductive Toml.Error where
  | malformed (text : String)
  | refused (text : String)
  deriving DecidableEq, Repr

/-- **What the program rests on.** -/
class Libraries where
  /-- Parse a source text, or tell why it is no Lua. -/
  parseLua : String → Except String Lua.Root
  /-- Read a settings file. -/
  readToml : String → Except Toml.Error (List (String × Datum))
  /-- Tell the kinds of settings apart. -/
  validator : Validator
  /-- Show texts. -/
  console : Console

end DefUse
