import DefUse.Number.Double

/-!
# Value/Basic — the values a syntax tree is made of

A syntax tree reaches the checker as plain data: records with a `type` field, lists, texts and
numbers, in any shape its producer chose.  `Value` is that data.  Records keep their fields in
order, whole numbers are unbounded and never confused with doubles.

`Value.size_field_lt` and `Value.size_itemsAt_lt` are what every recursion over a tree rests on: a
field, and each of its items, is smaller than the record that holds it.
-/

namespace DefUse

/-- **A piece of structured data.**  A record lists its fields in order, each key once. -/
inductive Value where
  | null
  | bool (b : Bool)
  | int (n : Int)
  | float (x : Double)
  | str (s : String)
  | list (items : List Value)
  | record (fields : List (String × Value))
  deriving Repr, Inhabited

namespace Value

/-- The value stored under a key, in a list of fields. -/
def lookup (key : String) : List (String × Value) → Option Value
  | [] => none
  | (k, v) :: rest => if k = key then some v else lookup key rest

/-- The value a record has under a key; nothing for any other value. -/
def get? (key : String) : Value → Option Value
  | record fields => lookup key fields
  | _ => none

/-- The value a record has under a key, an absent one counting as `null`. -/
def field (key : String) (v : Value) : Value := (v.get? key).getD null

/-- Whether the value is a record. -/
def isRecord : Value → Bool
  | record _ => true
  | _ => false

/-- Whether the value is `null`. -/
def isNull : Value → Bool
  | null => true
  | _ => false

/-- The text, if the value is one. -/
def text? : Value → Option String
  | str s => some s
  | _ => none

/-- Whether the value is a given text. -/
def isText (s : String) (v : Value) : Bool := v.text? == some s

/-- Whether the value counts as true: false, zero, `null` and everything empty do not. -/
def truthy : Value → Bool
  | null => false
  | bool b => b
  | int n => n ≠ 0
  | float (.finite _ m _) => m ≠ 0
  | float _ => true
  | str s => s ≠ ""
  | list items => !items.isEmpty
  | record fields => !fields.isEmpty

/-- The word messages use for the kind of a value. -/
def typeName : Value → String
  | null => "NoneType"
  | bool _ => "bool"
  | int _ => "int"
  | float _ => "float"
  | str _ => "str"
  | list _ => "list"
  | record _ => "dict"

/-! ## Items

A field that is gone through item by item is not always a list: a text gives its characters and a
record its keys. -/

/-- The items of a value that has any. -/
def items? : Value → Option (List Value)
  | list items => some items
  | str s => some (s.toList.map fun c => str (String.singleton c))
  | record fields => some (fields.map fun f => str f.1)
  | _ => none

/-- The items of a field, none for a field that is absent. -/
def itemsAt? (key : String) (v : Value) : Option (List Value) :=
  match v.get? key with
  | some w => w.items?
  | none => some []

/-! ## Parts are smaller -/

mutual

/-- How many values a value is made of, not counting `null`. -/
def size : Value → Nat
  | null => 0
  | list items => 1 + sizeItems items
  | record fields => 1 + sizeFields fields
  | _ => 1

/-- The size of all items together. -/
def sizeItems : List Value → Nat
  | [] => 0
  | v :: rest => v.size + sizeItems rest

/-- The size of all fields together. -/
def sizeFields : List (String × Value) → Nat
  | [] => 0
  | (_, v) :: rest => v.size + sizeFields rest

end

theorem size_le_sizeItems {v : Value} : ∀ {items : List Value}, v ∈ items → v.size ≤ sizeItems items
  | w :: rest, h => by
    rcases List.mem_cons.1 h with rfl | h
    · simp only [sizeItems]
      omega
    · have := size_le_sizeItems h
      simp only [sizeItems]
      omega

theorem size_le_sizeFields {key : String} {v : Value} :
    ∀ {fields : List (String × Value)}, lookup key fields = some v → v.size ≤ sizeFields fields
  | [], h => by simp [lookup] at h
  | (k, w) :: rest, h => by
    rw [lookup] at h
    simp only [sizeFields]
    split at h
    · obtain rfl := Option.some.inj h
      omega
    · have := size_le_sizeFields h
      omega

/-- **A field is smaller than its record.** -/
theorem size_get?_lt {key : String} {v w : Value} (h : v.get? key = some w) : w.size < v.size := by
  cases v with
  | record fields =>
    have := size_le_sizeFields (h : lookup key fields = some w)
    simp only [size]
    omega
  | _ => simp [get?] at h

/-- A field of a record, absent or not, is smaller than the record. -/
theorem size_field_lt (key : String) {v : Value} (h : v.isRecord) :
    (v.field key).size < v.size := by
  unfold field
  cases hv : v.get? key with
  | some w => exact size_get?_lt hv
  | none =>
    cases v with
    | record fields =>
      simp only [Option.getD_none, size]
      omega
    | _ => simp [isRecord] at h

/-- Items are no larger than what they are the items of. -/
theorem size_item_le {v w : Value} {items : List Value} (h : v.items? = some items)
    (hw : w ∈ items) : w.size ≤ v.size := by
  cases v with
  | list l =>
    obtain rfl := Option.some.inj h
    have := size_le_sizeItems hw
    simp only [size]
    omega
  | str s =>
    obtain rfl := Option.some.inj h
    obtain ⟨c, -, rfl⟩ := List.mem_map.1 hw
    simp [size]
  | record fields =>
    obtain rfl := Option.some.inj h
    obtain ⟨f, -, rfl⟩ := List.mem_map.1 hw
    simp [size]
  | _ => simp [items?] at h

/-- **The items of a field are smaller than the record.** -/
theorem size_itemsAt_lt (key : String) {v w : Value} {items : List Value}
    (h : v.itemsAt? key = some items) (hw : w ∈ items) : w.size < v.size := by
  unfold itemsAt? at h
  cases hv : v.get? key with
  | none =>
    rw [hv] at h
    obtain rfl := Option.some.inj h
    cases hw
  | some u =>
    rw [hv] at h
    exact Nat.lt_of_le_of_lt (size_item_le h hw) (size_get?_lt hv)

end Value

end DefUse
