import DefUse.Proofs.Number.Rounding
import DefUse.Value.Basic

/-!
# Proofs/Value/Proper — values as they are read

`Value` has more members than there is data: a record could list a key twice, and a double could be
out of its normal form.  `Value.Proper` leaves these out, throughout a value.
-/

namespace DefUse.Value

variable {items : List Value} {fields : List (String × Value)}

/-- **Induction over the parts of a value.** -/
theorem partsInduction {motive : Value → Prop} (null : motive .null)
    (bool : ∀ b, motive (.bool b)) (int : ∀ n, motive (.int n)) (float : ∀ x, motive (.float x))
    (str : ∀ s, motive (.str s))
    (list : ∀ items, (∀ v ∈ items, motive v) → motive (.list items))
    (record : ∀ fields, (∀ f ∈ fields, motive f.2) → motive (.record fields)) (v : Value) :
    motive v := by
  refine @Value.rec motive (fun items => ∀ v ∈ items, motive v)
    (fun fields => ∀ f ∈ fields, motive f.2) (fun f => motive f.2) null bool int float str list
    record ?_ ?_ ?_ ?_ ?_ v
  · exact List.forall_mem_nil _
  · exact fun _ _ hv hitems => List.forall_mem_cons.2 ⟨hv, hitems⟩
  · exact List.forall_mem_nil _
  · exact fun _ _ hf hfields => List.forall_mem_cons.2 ⟨hf, hfields⟩
  · exact fun _ _ hv => hv

mutual

/-- **A value such as one reads**: every double in it is in its normal form, and every record in it
has each key once. -/
def Proper : Value → Prop
  | float x => x.Canonical
  | list items => ProperItems items
  | record fields => (fields.map (·.1)).Nodup ∧ ProperFields fields
  | _ => True

/-- Every item is proper. -/
def ProperItems : List Value → Prop
  | [] => True
  | v :: rest => Proper v ∧ ProperItems rest

/-- The value of every field is proper. -/
def ProperFields : List (String × Value) → Prop
  | [] => True
  | (_, v) :: rest => Proper v ∧ ProperFields rest

end

theorem properItems_iff : ProperItems items ↔ ∀ v ∈ items, v.Proper := by
  induction items with
  | nil => exact iff_of_true trivial (List.forall_mem_nil _)
  | cons v rest ih => exact (and_congr_right fun _ => ih).trans List.forall_mem_cons.symm

theorem properFields_iff : ProperFields fields ↔ ∀ f ∈ fields, f.2.Proper := by
  induction fields with
  | nil => exact iff_of_true trivial (List.forall_mem_nil _)
  | cons f rest ih =>
    rw [List.forall_mem_cons, ← ih]
    rfl

theorem proper_list : (list items).Proper ↔ ∀ v ∈ items, v.Proper := properItems_iff

theorem proper_record :
    (record fields).Proper ↔ (fields.map (·.1)).Nodup ∧ ∀ f ∈ fields, f.2.Proper :=
  and_congr_right fun _ => properFields_iff

end DefUse.Value
