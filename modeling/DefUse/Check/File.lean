import DefUse.Check.Report
import DefUse.Lua.Adapter
import DefUse.Settings.Load

/-!
# Check/File — checking a file

A file whose suffix is `.json`, in capital or small letters, holds a syntax tree; every other file
holds Lua source text, in which bytes that are not UTF-8 are read as replacement characters.
-/

namespace DefUse

variable [Libraries]

/-- **Why a file gives no tree.** -/
inductive LoadError where
  | unreadable (e : FileError)
  | undecodable (e : Utf8.Error)
  | notJson (name : String) (e : Json.SyntaxError)
  /-- A document with a whole number of too many digits. -/
  | tooLong (digits : Nat)
  | notAChunk (name : String)
  | noBody (name : String)
  | notLua (reason : String)
  /-- A source text with a construct that the tree has no place for. -/
  | unsupported (r : Lua.Refusal)

namespace LoadError

/-- Why a document gives no tree. -/
def ofJson (name : String) : Json.Error → LoadError
  | .notADocument e => notJson name e
  | .tooLong digits => tooLong digits

/-- The message of an error that is reported; nothing for a path that is none, for bytes that are
not UTF-8 and for numbers that are too long. -/
def message? : LoadError → Option String
  | unreadable e => if e.isSystem then some e.message else none
  | undecodable _ | tooLong _ => none
  | notJson name e => some s!"{name} is not a JSON syntax tree: {e.message}"
  | notAChunk name => some s!"{name} does not contain a Chunk root node"
  | noBody name => some s!"{name}: Chunk has no statement body"
  | notLua reason => some s!"Cannot parse Lua source: {reason}"
  | unsupported r => r.failure.message?

/-- Whether the error is about what a readable file holds. -/
def isContent : LoadError → Bool
  | unreadable _ | undecodable _ | tooLong _ => false
  | _ => true

end LoadError

/-- The tree of a source text. -/
def Lua.tree (source : String) : Except LoadError Value :=
  match Libraries.parseLua source with
  | .ok root => (convert root).mapError .unsupported
  | .error reason => .error (.notLua reason)

namespace Disk

/-- Read a syntax tree from a JSON document: a record of kind `Chunk` with a list of statements. -/
def loadJsonDocument (d : Disk) (p : Path) : Except LoadError Json.Document := do
  let bytes ← (d.read p).mapError .unreadable
  let text ← (Utf8.decode bytes).mapError .undecodable
  let text := String.ofList (Utf8.unifyLineEnds text.toList)
  let document ← (Json.readDocument text).mapError (.ofJson p.name)
  let tree := document.toValue
  if !(kindOf tree).isText "Chunk" then throw (.notAChunk p.name)
  match tree.field "body" with
  | .list _ => return document
  | _ => throw (.noBody p.name)

/-- Read the syntax tree of a source text. -/
def loadLuaTree (d : Disk) (p : Path) : Except LoadError Value := do
  let bytes ← (d.read p).mapError .unreadable
  Lua.tree (String.ofList (Utf8.unifyLineEnds (Utf8.decodeLossy bytes).toList))

/-- **Read the syntax tree of a file**, as its suffix says. -/
def loadDocument (d : Disk) (p : Path) : Except LoadError Json.Document :=
  if p.foldedSuffix = ".json" then d.loadJsonDocument p else (d.loadLuaTree p).map .ofValue

/-- The syntax tree of a file, as it is checked. -/
def loadTree (d : Disk) (p : Path) : Except LoadError Value :=
  (d.loadDocument p).map Json.Document.toValue

end Disk

/-- What ends a check without a report. -/
inductive Escape where
  | settings (e : SettingsError)
  | load (e : LoadError)
  | walk (f : Failure)

/-- The session in which a tree is checked, with a trace if one is asked for. -/
def Session.begin (settings : Settings) (tree : Value) (traced : Bool) : Session :=
  if traced then (start settings tree).withTrace else start settings tree

/-- **Check a file under some settings**, with a trace if one is asked for: its report, or what
ended the check without one, and the session if the tree was walked. -/
def checkFile (d : Disk) (traced : Bool) (settings : Settings) (p : Path) :
    Except Escape Report × Option Session :=
  match d.loadTree p with
  | .ok tree =>
    let (result, s) := (Session.begin settings tree traced).verify (some p.text)
    (result.mapError .walk, some s)
  | .error e =>
    match e.message? with
    | some m => (.ok (.failed (some p.text) m), none)
    | none => (.error (.load e), none)

/-- **Check a file**, under the settings of the project it is in unless some are given. -/
def verifyFile (d : Disk) (settings : Option Settings) (p : Path) : Except Escape Report :=
  match settings with
  | some settings => (checkFile d false settings p).1
  | none =>
    match (Settings.load d [] none p.parent).1 with
    | .ok settings => (checkFile d false settings p).1
    | .error e => .error (.settings e)

/-- The files that can be checked, by their suffixes. -/
def checkedSuffixes : List String := [".lua", ".json"]

/-- **The files that paths stand for**: a directory stands for those below it that can be checked,
in order, and any other path for itself. -/
def collectFiles (d : Disk) (paths : List Path) : List Path :=
  paths.flatMap fun p =>
    if d.isDirectory p then
      (d.filesUnder p).filter fun q => checkedSuffixes.contains q.foldedSuffix
    else [p]

end DefUse
