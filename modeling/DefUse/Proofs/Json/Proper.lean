import DefUse.Proofs.Json.Text
import DefUse.Proofs.Value.Proper

/-!
# Proofs/Json/Proper — documents as they are read

`Document` has more members than there are documents: a record could list a key twice, a double
could be out of its normal form, and halves could be left to join in a text.  `Document.Proper`
leaves these out, throughout a document.  `Document.store` keeps the keys of a record apart.

Every value is a document (`toValue_ofValue`), which is proper if the value is.
-/

namespace DefUse.Json

/-! ## Texts -/

namespace Text

@[simp] theorem toString_ofString (s : String) : (ofString s).toString = s := by
  rw [ofString, toString, List.map_map]
  exact (congrArg String.ofList (List.map_id s.toList)).trans (String.ofList_toList)

/-- A text is not lost. -/
theorem ofString_injective {s s' : String} (h : ofString s = ofString s') : s = s' := by
  rw [← toString_ofString s, h, toString_ofString]

end Text

namespace Document

variable {d : Document} {key : Text} {items : List Document} {fields : List (Text × Document)}

/-- **Induction over the parts of a document.** -/
theorem partsInduction {motive : Document → Prop} (null : motive .null)
    (bool : ∀ b, motive (.bool b)) (int : ∀ n, motive (.int n)) (float : ∀ x, motive (.float x))
    (str : ∀ t, motive (.str t))
    (list : ∀ items, (∀ d ∈ items, motive d) → motive (.list items))
    (record : ∀ fields, (∀ f ∈ fields, motive f.2) → motive (.record fields)) (d : Document) :
    motive d := by
  refine @Document.rec motive (fun items => ∀ d ∈ items, motive d)
    (fun fields => ∀ f ∈ fields, motive f.2) (fun f => motive f.2) null bool int float str list
    record ?_ ?_ ?_ ?_ ?_ d
  · exact List.forall_mem_nil _
  · exact fun _ _ hd hitems => List.forall_mem_cons.2 ⟨hd, hitems⟩
  · exact List.forall_mem_nil _
  · exact fun _ _ hf hfields => List.forall_mem_cons.2 ⟨hf, hfields⟩
  · exact fun _ _ hd => hd

/-! ## Proper documents -/

mutual

/-- **A document such as one reads**: every double in it is in its normal form, no halves are left
to join in its texts, and every record in it has each key once. -/
def Proper : Document → Prop
  | float x => x.Canonical
  | str t => t.Joined
  | list items => ProperItems items
  | record fields => (fields.map (·.1)).Nodup ∧ ProperFields fields
  | _ => True

/-- Every item is proper. -/
def ProperItems : List Document → Prop
  | [] => True
  | d :: rest => Proper d ∧ ProperItems rest

/-- Every field is proper: no halves are left to join in its key, and its document is proper. -/
def ProperFields : List (Text × Document) → Prop
  | [] => True
  | (k, d) :: rest => (k.Joined ∧ Proper d) ∧ ProperFields rest

end

/-- Items are proper if each of them is. -/
theorem properItems_iff : ProperItems items ↔ ∀ d ∈ items, d.Proper := by
  induction items with
  | nil => exact iff_of_true trivial (List.forall_mem_nil _)
  | cons d rest ih => exact (and_congr_right fun _ => ih).trans List.forall_mem_cons.symm

theorem properFields_iff : ProperFields fields ↔ ∀ f ∈ fields, f.1.Joined ∧ f.2.Proper := by
  induction fields with
  | nil => exact iff_of_true trivial (List.forall_mem_nil _)
  | cons f rest ih =>
    rw [List.forall_mem_cons, ← ih]
    rfl

theorem proper_list : (list items).Proper ↔ ∀ d ∈ items, d.Proper := properItems_iff

/-- A record is proper if no key comes twice and its keys and values are. -/
theorem proper_record :
    (record fields).Proper ↔
      (fields.map (·.1)).Nodup ∧ ∀ f ∈ fields, f.1.Joined ∧ f.2.Proper :=
  and_congr_right fun _ => properFields_iff

/-! ## Storing -/

/-- A new key goes to the end. -/
theorem store_of_notMem (h : key ∉ fields.map (·.1)) :
    store key d fields = fields ++ [(key, d)] := by
  induction fields with
  | nil => rfl
  | cons f rest ih =>
    rw [List.map_cons, List.mem_cons, not_or] at h
    rw [store, if_neg (Ne.symm h.1), ih h.2]
    rfl

/-- A key that is there keeps its place. -/
theorem keys_store_of_mem (h : key ∈ fields.map (·.1)) :
    (store key d fields).map (·.1) = fields.map (·.1) := by
  induction fields with
  | nil => cases h
  | cons f rest ih =>
    rw [store]
    split
    · rfl
    · rename_i hne
      rw [List.map_cons, List.mem_cons] at h
      rw [List.map_cons, ih (h.resolve_left (Ne.symm hne))]
      rfl

/-- Putting a value under a key keeps keys apart. -/
theorem nodup_store (h : (fields.map (·.1)).Nodup) :
    ((store key d fields).map (·.1)).Nodup := by
  by_cases hkey : key ∈ fields.map (·.1)
  · rwa [keys_store_of_mem hkey]
  · rw [store_of_notMem hkey, List.map_append]
    refine List.nodup_append.2 ⟨h, List.nodup_singleton _, ?_⟩
    rintro k hk k' hk' rfl
    rw [List.mem_singleton.1 hk'] at hk
    exact hkey hk

/-- A field of a record that something is put into is the new one or was there. -/
theorem mem_store {f : Text × Document} (h : f ∈ store key d fields) :
    f = (key, d) ∨ f ∈ fields := by
  induction fields with
  | nil => exact Or.inl (List.mem_singleton.1 h)
  | cons g rest ih =>
    rw [store] at h
    split at h
    · rename_i hkey
      rcases List.mem_cons.1 h with rfl | h
      · exact Or.inl (by rw [hkey])
      · exact Or.inr (List.mem_cons_of_mem _ h)
    · rcases List.mem_cons.1 h with rfl | h
      · exact Or.inr List.mem_cons_self
      · exact (ih h).imp_right (List.mem_cons_of_mem _)

/-- **Storing a proper document keeps the fields proper.** -/
theorem Proper.store (hkey : key.Joined) (hd : d.Proper) (h : (record fields).Proper) :
    (record (store key d fields)).Proper := by
  rw [proper_record] at h ⊢
  refine ⟨nodup_store h.1, fun f hf => ?_⟩
  rcases mem_store hf with rfl | hf
  · exact ⟨hkey, hd⟩
  · exact h.2 f hf

/-! ## Values as documents -/

/-- Values are taken as documents one by one. -/
theorem ofValues_eq (items : List Value) : ofValues items = items.map ofValue := by
  induction items with
  | nil => rfl
  | cons v rest ih => rw [ofValues, ih, List.map_cons]

theorem ofFields_eq (fields : List (String × Value)) :
    ofFields fields = fields.map fun f => (.ofString f.1, ofValue f.2) := by
  induction fields with
  | nil => rfl
  | cons f rest ih => rw [ofFields, ih, List.map_cons]

/-- Documents are taken as values one by one. -/
theorem toValues_eq (items : List Document) : toValues items = items.map toValue := by
  induction items with
  | nil => rfl
  | cons d rest ih => rw [toValues, ih, List.map_cons]

theorem toFields_eq (fields : List (Text × Document)) :
    toFields fields = fields.map fun f => (f.1.toString, f.2.toValue) := by
  induction fields with
  | nil => rfl
  | cons f rest ih => rw [toFields, ih, List.map_cons]

/-- **A value is shown by the document it is.** -/
@[simp] theorem toValue_ofValue (v : Value) : (ofValue v).toValue = v := by
  induction v using Value.partsInduction with
  | null | bool | int | float => rfl
  | str s => rw [ofValue, toValue, Text.toString_ofString]
  | list items ih =>
    rw [ofValue, toValue, ofValues_eq, toValues_eq, List.map_map]
    exact congrArg Value.list ((List.map_congr_left ih).trans (List.map_id items))
  | record fields ih =>
    rw [ofValue, toValue, ofFields_eq, toFields_eq, List.map_map]
    refine congrArg Value.record ((List.map_congr_left fun f hf => ?_).trans (List.map_id fields))
    exact Prod.ext (Text.toString_ofString f.1) (ih f hf)

/-- **A proper value is a proper document.** -/
theorem proper_ofValue {v : Value} (hv : v.Proper) : (ofValue v).Proper := by
  induction v using Value.partsInduction with
  | null | bool | int => trivial
  | float x => exact hv
  | str s => exact Text.joined_ofString s
  | list items ih =>
    rw [ofValue, proper_list, ofValues_eq, List.forall_mem_map]
    exact fun v hmem => ih v hmem (Value.proper_list.1 hv v hmem)
  | record fields ih =>
    obtain ⟨hkeys, hfields⟩ := Value.proper_record.1 hv
    rw [ofValue, proper_record, ofFields_eq, List.map_map, List.forall_mem_map]
    refine ⟨?_, fun f hf => ⟨Text.joined_ofString f.1, ih f hf (hfields f hf)⟩⟩
    have hnodup := hkeys.map fun _ _ => Text.ofString_injective
    rwa [List.map_map] at hnodup

end Document

end DefUse.Json
