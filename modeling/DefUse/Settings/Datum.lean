import DefUse.Settings.Moment
import DefUse.Value.Display

/-!
# Settings/Datum — what a setting may be given as

Settings come from a settings file or as plain data.  A `Datum` is what either may hold: the values
of plain data and the dates and times of a settings file.
-/

namespace DefUse

/-- **What a setting may be given as.** -/
inductive Datum where
  | null
  | bool (b : Bool)
  | int (n : Int)
  | float (x : Double)
  | str (s : String)
  | moment (m : Moment)
  | list (items : List Datum)
  | table (fields : List (String × Datum))
  deriving Inhabited

namespace Datum

mutual

/-- Plain data as it is given. -/
def ofValue : Value → Datum
  | .null => null
  | .bool b => bool b
  | .int n => int n
  | .float x => float x
  | .str s => str s
  | .list items => list (ofItems items)
  | .record fields => table (ofFields fields)

/-- The items of a list as they are given. -/
def ofItems : List Value → List Datum
  | [] => []
  | v :: rest => ofValue v :: ofItems rest

/-- The fields of a record as they are given. -/
def ofFields : List (String × Value) → List (String × Datum)
  | [] => []
  | (k, v) :: rest => (k, ofValue v) :: ofFields rest

end

mutual

/-- The literal form. -/
def display : Datum → String
  | null => "None"
  | bool b => if b then "True" else "False"
  | int n => toString n
  | float x => x.text
  | str s => quoted s
  | moment m => m.display
  | list items => "[" ++ ", ".intercalate (displayItems items) ++ "]"
  | table fields => "\x7b" ++ ", ".intercalate (displayFields fields) ++ "\x7d"

/-- The literal forms of items. -/
def displayItems : List Datum → List String
  | [] => []
  | d :: rest => d.display :: displayItems rest

/-- The literal forms of fields. -/
def displayFields : List (String × Datum) → List String
  | [] => []
  | (k, d) :: rest => (quoted k ++ ": " ++ d.display) :: displayFields rest

end

/-- The word for the kind of a datum. -/
def typeName : Datum → String
  | null => "NoneType"
  | bool _ => "bool"
  | int _ => "int"
  | float _ => "float"
  | str _ => "str"
  | moment m => m.typeName
  | list _ => "list"
  | table _ => "dict"

/-- The value under a key, in the fields of a table. -/
def lookup (key : String) : List (String × Datum) → Option Datum
  | [] => none
  | (k, d) :: rest => if k = key then some d else lookup key rest

/-- Put a value under a key, in place of one that is there. -/
def store (key : String) (value : Datum) : List (String × Datum) → List (String × Datum)
  | [] => [(key, value)]
  | (k, d) :: rest => if k = key then (k, value) :: rest else (k, d) :: store key value rest

/-- What is gone through when the datum is taken as a sequence: items, characters or keys. -/
def items? : Datum → Option (List Datum)
  | list items => some items
  | str s => some (s.toList.map fun c => str (String.singleton c))
  | table fields => some (fields.map fun f => str f.1)
  | _ => none

/-- Whether the datum can be a key. -/
def isKey : Datum → Bool
  | list _ | table _ => false
  | _ => true

/-- Whether two data are the same key. -/
def sameKey : Datum → Datum → Bool
  | str a, str b => a = b
  | int a, int b => a = b
  | bool a, bool b => a = b
  | int a, bool b | bool b, int a => a = if b then 1 else 0
  | float a, float b => a = b
  | moment a, moment b => a = b
  | _, _ => false

end Datum

end DefUse
