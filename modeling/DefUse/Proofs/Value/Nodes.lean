import DefUse.Proofs.Check.Grammar

/-!
# Proofs/Value/Nodes — what holds of every node of a tree

A node is any record, however deep in a tree and under whatever field.  `Value.AllNodes P` says that
all of them have `P`; whatever is got out of such a tree has the property again.
-/

namespace DefUse.Value

mutual

/-- **Every node of a value has a property.** -/
def AllNodes (P : Value → Prop) : Value → Prop
  | record fields => P (record fields) ∧ AllNodesOfFields P fields
  | list items => AllNodesOfItems P items
  | _ => True

/-- Every node of some items has a property. -/
def AllNodesOfItems (P : Value → Prop) : List Value → Prop
  | [] => True
  | v :: rest => AllNodes P v ∧ AllNodesOfItems P rest

/-- Every node of some fields has a property. -/
def AllNodesOfFields (P : Value → Prop) : List (String × Value) → Prop
  | [] => True
  | (_, v) :: rest => AllNodes P v ∧ AllNodesOfFields P rest

end

variable {P : Value → Prop} {v w : Value} {key : String}

/-- For a record it holds of the record and of all nodes in its fields. -/
theorem allNodes_record {fields : List (String × Value)} :
    AllNodes P (record fields) ↔ P (record fields) ∧ AllNodesOfFields P fields := Iff.rfl

/-- For items it is each of them. -/
theorem allNodesOfItems_iff {items : List Value} :
    AllNodesOfItems P items ↔ ∀ v ∈ items, AllNodes P v := by
  induction items with
  | nil => exact iff_of_true trivial (List.forall_mem_nil _)
  | cons v rest ih => exact (and_congr_right fun _ => ih).trans List.forall_mem_cons.symm

/-- For fields it is each of their values. -/
theorem allNodesOfFields_iff {fields : List (String × Value)} :
    AllNodesOfFields P fields ↔ ∀ v ∈ fields.map (·.2), AllNodes P v := by
  induction fields with
  | nil => exact iff_of_true trivial (List.forall_mem_nil _)
  | cons field rest ih => exact (and_congr_right fun _ => ih).trans List.forall_mem_cons.symm

theorem allNodes_list {items : List Value} :
    AllNodes P (list items) ↔ ∀ v ∈ items, AllNodes P v := allNodesOfItems_iff

/-- What is under a key is one of the values. -/
theorem AllNodesOfFields.of_lookup {fields : List (String × Value)}
    (h : AllNodesOfFields P fields) (hv : lookup key fields = some v) : AllNodes P v := by
  induction fields with
  | nil => cases hv
  | cons field rest ih =>
    rw [lookup] at hv
    split at hv
    · exact Option.some.inj hv ▸ h.1
    · exact ih h.2 hv

namespace AllNodes

theorem null : AllNodes P .null := trivial

theorem str (s : String) : AllNodes P (.str s) := trivial

/-- A record is one of its own nodes. -/
theorem of_isRecord (h : AllNodes P v) (hr : v.isRecord = true) : P v := by
  cases v with
  | record fields => exact (allNodes_record.1 h).1
  | _ => cases hr

theorem get? (h : AllNodes P v) (hw : v.get? key = some w) : AllNodes P w := by
  cases v with
  | record fields => exact (allNodes_record.1 h).2.of_lookup hw
  | _ => cases hw

/-- What is in a field is inside, and so is nothing if the field is missing. -/
theorem field (h : AllNodes P v) (key : String) : AllNodes P (v.field key) := by
  cases hw : v.get? key with
  | none => rw [Value.field, hw]; exact null
  | some w => rw [Value.field, hw]; exact h.get? hw

theorem item (h : AllNodes P v) {items : List Value} (hitems : v.items? = some items)
    (hw : w ∈ items) : AllNodes P w := by
  cases v with
  | list items' =>
    obtain rfl := Option.some.inj hitems
    exact allNodes_list.1 h w hw
  | str s =>
    obtain rfl := Option.some.inj hitems
    obtain ⟨c, -, rfl⟩ := List.mem_map.1 hw
    exact str _
  | record fields =>
    obtain rfl := Option.some.inj hitems
    obtain ⟨f, -, rfl⟩ := List.mem_map.1 hw
    exact str _
  | _ => cases hitems

/-- An item of a field that is a list is inside. -/
theorem itemsAt (h : AllNodes P v) (hw : w ∈ v.itemsAt key) : AllNodes P w := by
  rw [Value.itemsAt, itemsAt?] at hw
  cases hfield : v.get? key with
  | none => simp [hfield] at hw
  | some field =>
    simp only [hfield] at hw
    cases hitems : field.items? with
    | none => simp [hitems] at hw
    | some items =>
      simp only [hitems, Option.getD_some] at hw
      exact (h.get? hfield).item hitems hw

end AllNodes

end DefUse.Value
