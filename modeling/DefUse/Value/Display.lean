import DefUse.Number.Shortest
import DefUse.Text.Quoted
import DefUse.Value.Basic

/-!
# Value/Display — the text of a value in a message

`Value.display` is the literal form, in which texts stand between quotes; `Value.plain` is the same
except that a text on its own stands for itself.
-/

namespace DefUse.Value

mutual

/-- **The literal form of a value.** -/
def display : Value → String
  | null => "None"
  | bool b => if b then "True" else "False"
  | int n => toString n
  | float x => x.text
  | str s => quoted s
  | list items => "[" ++ ", ".intercalate (displayItems items) ++ "]"
  | record fields => "\x7b" ++ ", ".intercalate (displayFields fields) ++ "\x7d"

/-- The literal forms of the items of a list. -/
def displayItems : List Value → List String
  | [] => []
  | v :: rest => v.display :: displayItems rest

/-- The literal forms of the fields of a record. -/
def displayFields : List (String × Value) → List String
  | [] => []
  | (k, v) :: rest => (quoted k ++ ": " ++ v.display) :: displayFields rest

end

/-- The form in which a text stands for itself. -/
def plain : Value → String
  | str s => s
  | v => v.display

end DefUse.Value
