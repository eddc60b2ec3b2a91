import DefUse.Settings.Basic
import DefUse.Settings.Datum

/-!
# Settings/Validate — from data to settings

`Settings.check` turns what the settings are given as into settings, or lists every complaint about
them, field by field.  Whether something is of the kind that a field has to be is for a `Validator`
to say.  What is said here is which field has which kind, what a field is if it is not given, that a
separator is one of the two there are, and that a global name counts once.
-/

namespace DefUse

/-- Where in the settings something is. -/
inductive Spot where
  | field (name : String)
  | index (n : Int)
  deriving DecidableEq, Repr

/-- **A complaint about a setting**: where it is, the label and the sentence for what is wrong, and
what was given. -/
structure Complaint where
  spots : List Spot
  label : String
  message : String
  given : Datum

/-- What is made of a part of the settings, or the complaints about it. -/
abbrev Checked (α : Type) := Except (List Complaint) α

/-- The complaints about a part. -/
def Checked.complaints {α : Type} : Checked α → List Complaint
  | .ok _ => []
  | .error cs => cs

/-- What a table of members is given as: pairs, whose keys may be anything, or no table at all. -/
abbrev GivenTable := Except Datum (List (Datum × Datum))

/-- **What tells the kinds of data apart.** -/
structure Validator where
  /-- A text. -/
  text : List Spot → Datum → Checked String
  /-- A list of texts. -/
  texts : List Spot → Datum → Checked (List String)
  /-- A table of lists of texts. -/
  members : List Spot → GivenTable → Checked (List (String × List String))
  /-- The complaint about something of the right kind that is refused with a sentence. -/
  refusal : List Spot → String → Datum → Complaint
  /-- The text that tells of all complaints. -/
  report : List Complaint → String

namespace Settings

/-- The separator that a text names, or why it names none. -/
def separatorOf (s : String) : Except String Separator :=
  match Separator.ofValue? (.str s) with
  | some sep => .ok sep
  | none => .error s!"Unknown separator '{s}'. Supported separators: ['.', ':']"

/-- Check a separator: a text, and one that names a separator. -/
def checkSeparator (v : Validator) (spots : List Spot) (d : Datum) : Checked Separator := do
  match separatorOf (← v.text spots d) with
  | .ok sep => return sep
  | .error sentence => throw [v.refusal spots sentence d]

/-- What each setting is given as, if it is given. -/
structure Given where
  globals : Option Datum := none
  derived : Option GivenTable := none
  separator : Option Datum := none
  cloneSuffix : Option Datum := none

/-- Check a field if it is given, and take it as bundled otherwise. -/
def checkField {α β : Type} (given : Option α) (check : α → Checked β) (bundled : β) : Checked β :=
  match given with
  | some a => check a
  | none => .ok bundled

/-- **Turn what is given into settings**, or list the complaints. -/
def check (v : Validator) (g : Given) : Checked Settings :=
  let globals := checkField g.globals (v.texts [.field "global_identifiers"]) bundledGlobals
  let derived := checkField g.derived (v.members [.field "derived_properties"]) bundledDerived
  let separator := checkField g.separator (checkSeparator v [.field "derived_separator"]) .colon
  let cloneSuffix := checkField g.cloneSuffix (v.text [.field "clone_suffix"]) "Clone"
  match globals, derived, separator, cloneSuffix with
  | .ok globals, .ok derived, .ok separator, .ok cloneSuffix =>
    .ok ⟨globals.eraseDups, derived, separator, cloneSuffix⟩
  | _, _, _, _ =>
    .error (globals.complaints ++ derived.complaints ++ separator.complaints ++
      cloneSuffix.complaints)

/-- The settings a record gives. -/
def ofValue (v : Validator) (record : Value) : Checked Settings :=
  let given (key : String) : Option Datum := (record.get? key).map Datum.ofValue
  check v
    { globals := given "global_identifiers"
      derived := (given "derived_properties").map fun
        | .table fields => .ok (fields.map fun (k, d) => (.str k, d))
        | d => .error d
      separator := given "derived_separator"
      cloneSuffix := given "clone_suffix" }

end Settings

end DefUse
