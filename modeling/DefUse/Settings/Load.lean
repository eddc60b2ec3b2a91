import DefUse.File.Tree
import DefUse.Json.Reader
import DefUse.Libraries
import DefUse.Text.Utf8

/-!
# Settings/Load — settings from a project's files

The nearest `pyproject.toml`, in a directory or the nearest one above it, may hold a section
`tool.lua_verifier`.  It can name a file of global names that replaces the bundled ones, add more
names, add or replace entries of the table of members, and set the separator and the clone suffix.
A list of names and a file of names given from outside come last and first.

A settings file that cannot be read, or is malformed, is passed over with a warning.
-/

namespace DefUse

variable [Libraries]

/-- **Why settings could not be loaded.** -/
inductive SettingsError where
  | unreadable (e : FileError)
  | undecodable (e : Utf8.Error)
  | notJson (e : Json.Error)
  /-- A settings file in which something is refused. -/
  | refused (text : String)
  /-- A file of names that holds something else. -/
  | notNames (path : Path)
  | invalid (complaints : List Complaint)
  /-- A pair, by its place, that has another length than two. -/
  | notAPair (place length : Nat)
  /-- A section that is no table. -/
  | sectionNotATable
  /-- A setting of a kind that cannot be used at all. -/
  | unusable

/-- The message of an error that is reported; nothing for the kinds that are not. -/
def SettingsError.message? : SettingsError → Option String
  | unreadable e => some e.message
  | undecodable e => some e.message
  | notJson e => some e.message
  | refused text => some text
  | notNames path => some s!"Whitelist file {path.text} must contain a list of identifier strings"
  | invalid cs => some (Libraries.validator.report cs)
  | notAPair place length =>
    some s!"dictionary update sequence element #{place} has length {length}; 2 is required"
  | sectionNotATable | unusable => none

/-- Read a text file. -/
def Disk.readText (d : Disk) (p : Path) : Except SettingsError String := do
  let bytes ← (d.read p).mapError .unreadable
  let text ← (Utf8.decode bytes).mapError .undecodable
  return String.ofList (Utf8.unifyLineEnds text.toList)

namespace Settings

/-! ## Files of names -/

/-- All texts of a list, if they are texts. -/
def textsOf? (items : List Value) : Option (List String) := items.mapM Value.text?

/-- The names a JSON document lists, alone or under `identifiers`. -/
def namesOf? : Value → Option (List String)
  | .list items => textsOf? items
  | .record fields =>
    match (Value.lookup "identifiers" fields).getD (.list []) with
    | .list items => textsOf? items
    | _ => none
  | _ => none

/-- **Read a file of names**: JSON if its suffix says so, words otherwise. -/
def readNames (d : Disk) (p : Path) : Except SettingsError (List String) := do
  let text ← d.readText p
  if p.suffix ≠ ".json" then return words text
  else
    let v ← (Json.read text).mapError .notJson
    match namesOf? v with
    | some names => return names
    | none => throw (.notNames p)

/-- Read a file that holds a table of members, as it stands. -/
def readTable (d : Disk) (p : Path) : Except SettingsError Value := do
  (Json.read (← d.readText p)).mapError .notJson

/-! ## The project's settings file -/

/-- The name of a settings file. -/
def fileName : String := "pyproject.toml"

/-- The directories from one up to the root, as names from the root. -/
def upwards (parts : List String) : List (List String) :=
  (List.range (parts.length + 1)).map fun i => parts.take (parts.length - i)

/-- **The nearest settings file**, from a directory upwards. -/
def nearest? (d : Disk) (start : Path) : Option Path :=
  let top := d.resolve start
  ((upwards top.parts).map fun parts => Path.child { top with parts } fileName).find? d.isFile

/-- The section of the settings in a document. -/
def sectionOf (fields : List (String × Datum)) : Except SettingsError Datum :=
  match (Datum.lookup "tool" fields).getD (.table []) with
  | .table tool => .ok ((Datum.lookup "lua_verifier" tool).getD (.table []))
  | _ => .error .sectionNotATable

/-- What a project says about its settings: the section, the directory it is relative to if there is
one, and the warning to give. -/
structure Project where
  given : Datum
  directory : Option Path
  warning : Option String

/-- A project whose settings file is passed over. -/
def Project.ignoring (file : Path) (reason : String) : Project :=
  ⟨.table [], none, some s!"Ignoring unreadable {file.text}: {reason}"⟩

/-- What a settings file says. -/
def projectOf (file : Path) (bytes : List UInt8) : Except SettingsError Project := do
  let text ← (Utf8.decode bytes).mapError .undecodable
  match Libraries.readToml text with
  | .ok fields => return ⟨← sectionOf fields, some file.parent, none⟩
  | .error (.malformed reason) => return .ignoring file reason
  | .error (.refused reason) => throw (.refused reason)

/-- **What the nearest settings file says.** -/
def project (d : Disk) (start : Path) : Except SettingsError Project :=
  match nearest? d start with
  | none => .ok ⟨.table [], none, none⟩
  | some file =>
    match d.read file with
    | .ok bytes => projectOf file bytes
    | .error e => if e.isSystem then .ok (.ignoring file e.message) else .error (.unreadable e)

/-! ## Putting settings together -/

/-- The file of names a section asks for.  Only a table can ask for one; of the other kinds, those
that can be searched do not hold one. -/
def namesFile? (given : Datum) : Except SettingsError (Option Datum) :=
  match given with
  | .table fields => .ok (Datum.lookup "globals_file" fields)
  | .list items =>
    if items.any (·.sameKey (.str "globals_file")) then .error .unusable else .ok none
  | .str s => if 1 < (s.splitOn "globals_file").length then .error .unusable else .ok none
  | _ => .error .unusable

/-- The path a setting names. -/
def pathOf (directory : Option Path) : Datum → Except SettingsError Path
  | .str s => .ok ((directory.getD .here).join (.ofText s))
  | _ => .error .unusable

/-- The file of names a project asks for. -/
def Project.namesPath? (p : Project) : Except SettingsError (Option Path) := do
  match ← namesFile? p.given with
  | some datum => return some (← pathOf p.directory datum)
  | none => return none

/-- The global names before any are added. -/
def baseNames (d : Disk) (p : Project) (namesFile : Option Path) :
    Except SettingsError (List String) := do
  match namesFile with
  | some file => readNames d file
  | none =>
    match ← p.namesPath? with
    | some file => readNames d file
    | none => return bundledGlobals

/-- A pair of a table, given as a sequence of two. -/
def pairOf (place : Nat) (d : Datum) : Except SettingsError (Datum × Datum) :=
  match d.items? with
  | none => .error .unusable
  | some [k, v] => if k.isKey then .ok (k, v) else .error .unusable
  | some items => .error (.notAPair place items.length)

/-- Pairs given as sequences, counted from a number on. -/
def pairsFrom : Nat → List Datum → Except SettingsError (List (Datum × Datum))
  | _, [] => .ok []
  | i, d :: rest => do return (← pairOf i d) :: (← pairsFrom (i + 1) rest)

/-- The pairs a setting gives: those of a table, or a sequence of pairs. -/
def pairsOf (d : Datum) : Except SettingsError (List (Datum × Datum)) :=
  match d with
  | .table fields => .ok (fields.map fun (k, v) => (.str k, v))
  | _ =>
    match d.items? with
    | some items => pairsFrom 0 items
    | none => .error .unusable

/-- Put a pair among others, in place of one with the same key. -/
def putPair (pair : Datum × Datum) : List (Datum × Datum) → List (Datum × Datum)
  | [] => [pair]
  | (k, v) :: rest =>
    if k.sameKey pair.1 then (k, pair.2) :: rest else (k, v) :: putPair pair rest

/-- The bundled table of members as data. -/
def bundledPairs : List (Datum × Datum) :=
  bundledDerived.map fun (k, names) => (.str k, .list (names.map .str))

/-- **Load settings**: the outcome, and the warnings on the way to it. -/
def load (d : Disk) (extra : List String) (namesFile : Option Path) (start : Path) :
    Except SettingsError Settings × List String :=
  match project d start with
  | .error e => (.error e, [])
  | .ok p => (assemble p, p.warning.toList)
where
  /-- The settings of a project, with what is given from outside. -/
  assemble (p : Project) : Except SettingsError Settings := do
    let base ← baseNames d p namesFile
    match p.given with
    | .table fields =>
      let added := (Datum.lookup "extra_globals" fields).getD (.list [])
      match added.items? with
      | none => throw .unusable
      | some items =>
        let pairs ← pairsOf ((Datum.lookup "derived_properties" fields).getD (.table []))
        let globals := base.map .str ++ items ++ extra.map .str
        (check Libraries.validator
          { globals := some (.list globals)
            derived := some (.ok (pairs.foldl (fun all pair => putPair pair all) bundledPairs))
            separator := some ((Datum.lookup "derived_separator" fields).getD (.str ":"))
            cloneSuffix := some ((Datum.lookup "clone_suffix" fields).getD (.str "Clone")) }
          ).mapError .invalid
    | _ => throw .sectionNotATable

end Settings

end DefUse
