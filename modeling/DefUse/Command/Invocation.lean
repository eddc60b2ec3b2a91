import DefUse.Command.Arguments

/-!
# Command/Invocation — what a command line asks for

There are two commands.  `verify` checks files and directories, `dump-tree` prints the syntax tree
of one file.  Both can be asked for a trace, before or after the name of the command.
-/

namespace DefUse

open Arguments

/-- What `verify` is asked for. -/
structure VerifyRequest where
  paths : List Path
  /-- Names defined besides those of the settings. -/
  globals : List String
  /-- A file of names in place of the one of the settings. -/
  globalsFile : Option Path
  json : Bool
  deriving DecidableEq, Repr

/-- What `dump-tree` is asked for. -/
structure DumpRequest where
  path : Path
  /-- The file to write to instead of printing. -/
  out : Option Path
  deriving DecidableEq, Repr

/-- What is to be done. -/
inductive Task where
  | verify (r : VerifyRequest)
  | dump (r : DumpRequest)
  deriving DecidableEq, Repr

/-- **What a command line asks for.** -/
structure Invocation where
  verbose : Bool
  task : Task
  deriving DecidableEq, Repr

namespace Invocation

/-! ## Help -/

/-- The help on the program. -/
def programHelp : String :=
  "usage: lua-verifier [-h] [--version] [-v] \x7bverify,dump-tree\x7d ...

lua-verifier: Definition-before-use checker for Lua scripts

positional arguments:
  \x7bverify,dump-tree\x7d
    verify            Check Lua files for undefined uses and redefinitions
    dump-tree         Print the syntax tree the verifier walks

options:
  -h, --help          show this help message and exit
  --version           show program's version number and exit
  -v, --verbose       Trace every definition, use and scope change
"

/-- The help on `verify`. -/
def verifyHelp : String :=
  "usage: lua-verifier verify [-h] [-v] [--globals [GLOBALS ...]]
                           [--globals-file GLOBALS_FILE] [--json]
                           paths [paths ...]

positional arguments:
  paths                 Lua files, luaparse JSON trees, or directories

options:
  -h, --help            show this help message and exit
  -v, --verbose         Same as the global -v
  --globals [GLOBALS ...]
                        Extra identifiers treated as globally defined (e.g.
                        Duel.Draw CATEGORY_DRAW)
  --globals-file GLOBALS_FILE
                        Whitelist file replacing the bundled one (JSON list or
                        whitespace separated)
  --json                Print results as JSON
"

/-- The help on `dump-tree`. -/
def dumpHelp : String :=
  "usage: lua-verifier dump-tree [-h] [-v] [--out OUT] path

positional arguments:
  path           Lua source file

options:
  -h, --help     show this help message and exit
  -v, --verbose  Same as the global -v
  --out OUT      Write JSON to this file instead of stdout
"

/-- The name of the program and its version. -/
def versionLine : String := "lua-verifier 0.1.0"

/-! ## Grammars -/

/-- The option that asks for help. -/
def helpSwitch (text : String) : Switch := ⟨"help", some 'h', .nothing, some (.help text)⟩

/-- The option that asks for a trace. -/
def verboseSwitch : Switch := ⟨"verbose", some 'v', .nothing, none⟩

/-- What the program takes before and with the name of a command. -/
def programGrammar : Grammar :=
  ⟨[helpSwitch programHelp, ⟨"version", none, .nothing, some .version⟩, verboseSwitch], .command⟩

/-- What `verify` takes. -/
def verifyGrammar : Grammar :=
  ⟨[helpSwitch verifyHelp, verboseSwitch, ⟨"globals", none, .any, none⟩,
    ⟨"globals-file", none, .one, none⟩, ⟨"json", none, .nothing, none⟩], .several⟩

/-- What `dump-tree` takes. -/
def dumpGrammar : Grammar :=
  ⟨[helpSwitch dumpHelp, verboseSwitch, ⟨"out", none, .one, none⟩], .one⟩

/-! ## Reading -/

/-- The task of `verify`. -/
def verifyTask (f : Found) (words : List String) : Task :=
  .verify
    { paths := words.map Path.ofText
      globals := (f.wordsOf? "globals").getD []
      globalsFile := f.pathOf? "globals-file"
      json := f.has "json" }

/-- The task of `dump-tree`. -/
def dumpTask (f : Found) (words : List String) : Task :=
  .dump { path := Path.ofText (words.head?.getD ""), out := f.pathOf? "out" }

/-- The grammar of a command, and the task its words and options give. -/
def command? : String → Option (Grammar × (Found → List String → Task))
  | "verify" => some (verifyGrammar, verifyTask)
  | "dump-tree" => some (dumpGrammar, dumpTask)
  | _ => none

/-- **Read a command line.** -/
def ofArguments (args : List String) : Except Stop Invocation := do
  let outer ← Arguments.read programGrammar args
  match outer.words with
  | some (name :: rest) =>
    match command? name with
    | none => throw .misuse
    | some (grammar, task) =>
      let inner ← Arguments.read grammar rest
      match inner.words with
      | none => throw .misuse
      | some words =>
        if outer.leftOver.isEmpty && inner.leftOver.isEmpty then
          return ⟨outer.has "verbose" || inner.has "verbose", task inner words⟩
        else throw .misuse
  | _ => throw .misuse

end Invocation

end DefUse
