import Mathlib.Data.List.Nodup
import DefUse.Proofs.Table
import DefUse.Toml.Document

/-!
# Proofs/Toml/Keys — no key is given twice

A table of a settings file has each of its keys once, and so have the tables in it
(`keyed_of_read?`).  A statement changes the table that its key leads to and nothing else, and what
it does there keeps keys apart: it adds one that was free, or puts another value under one that was
taken (`Keeps`).
-/

namespace DefUse

namespace Datum

variable {k : String} {v d : Datum} {fields : List (String × Datum)}

/-- **Every key once**, in all tables that a datum holds. -/
inductive Keyed : Datum → Prop
  | plain {d : Datum} (h : Toml.isContainer d = false) : Keyed d
  | list {items : List Datum} (h : ∀ d ∈ items, Keyed d) : Keyed (list items)
  | table {fields : List (String × Datum)} (distinct : (fields.map Prod.fst).Nodup)
      (values : ∀ f ∈ fields, Keyed f.2) : Keyed (table fields)

theorem keyed_empty : Keyed (table []) := .table List.nodup_nil (by simp)

/-- A field of a table that something is put into is the new one or was there. -/
theorem mem_store {f : String × Datum} (h : f ∈ store k v fields) : f = (k, v) ∨ f ∈ fields := by
  fun_induction store k v fields with
  | case1 => exact Or.inl (List.mem_singleton.1 h)
  | case2 d rest =>
    rcases List.mem_cons.1 h with rfl | hmem
    · exact Or.inl rfl
    · exact Or.inr (List.mem_cons_of_mem _ hmem)
  | case3 m d rest hne ih =>
    rcases List.mem_cons.1 h with rfl | hmem
    · exact Or.inr List.mem_cons_self
    · exact (ih hmem).imp_right (List.mem_cons_of_mem _)

/-- Putting a value under a key keeps keys apart. -/
theorem nodup_store (h : (fields.map Prod.fst).Nodup) :
    ((store k v fields).map Prod.fst).Nodup := by
  fun_induction store k v fields with
  | case1 => exact List.nodup_singleton k
  | case2 d rest => exact h
  | case3 m d rest hne ih =>
    obtain ⟨hm, hrest⟩ := List.nodup_cons.1 h
    refine List.nodup_cons.2 ⟨fun hmem => ?_, ih hrest⟩
    obtain ⟨f, hf, hfst⟩ := List.mem_map.1 hmem
    rcases mem_store hf with rfl | hf
    · exact hne hfst.symm
    · exact hm (List.mem_map.2 ⟨f, hf, hfst⟩)

/-- What is under a key has its keys apart as well. -/
theorem Keyed.lookup (h : Keyed (.table fields)) (hv : lookup k fields = some v) : v.Keyed := by
  cases h with
  | plain h => cases h
  | table distinct values => exact values _ (mem_of_lookup (lookup_eq_lookup k fields ▸ hv))

/-- A table that is not there counts as an empty one. -/
theorem Keyed.lookup_getD (h : Keyed (.table fields)) (k : String) :
    ((Datum.lookup k fields).getD (.table [])).Keyed := by
  cases hv : Datum.lookup k fields with
  | none => exact keyed_empty
  | some v => exact h.lookup hv

/-- A value may be put under any key. -/
theorem Keyed.store (h : Keyed (.table fields)) (hv : v.Keyed) :
    Keyed (.table (store k v fields)) := by
  cases h with
  | plain h => cases h
  | table distinct values =>
    refine .table (nodup_store distinct) fun f hf => ?_
    rcases mem_store hf with rfl | hf
    · exact hv
    · exact values f hf

/-- A key that was free can be added. -/
theorem Keyed.concat (h : Keyed (.table fields)) (hfree : Datum.lookup k fields = none)
    (hv : v.Keyed) : Keyed (.table (fields ++ [(k, v)])) := by
  cases h with
  | plain h => cases h
  | table distinct values =>
    refine .table ?_ fun f hf => ?_
    · rw [lookup_eq_lookup, lookup_eq_none_iff_notMem] at hfree
      rw [List.map_append, List.map_singleton, ← List.concat_eq_append]
      exact distinct.concat hfree
    · rcases List.mem_append.1 hf with hf | hf
      · exact values f hf
      · exact List.mem_singleton.1 hf ▸ hv

/-- So have the items of a list. -/
theorem Keyed.items {items : List Datum} (h : Keyed (.list items)) : ∀ d ∈ items, Keyed d := by
  cases h with
  | plain h => cases h
  | list h => exact h

end Datum

namespace Toml

open Datum (Keyed)

/-! ## Changes of a table -/

/-- A change of a table that keeps its keys apart. -/
def Keeps (change : Fields → Option Fields) : Prop :=
  ∀ fields fields', Keyed (.table fields) → change fields = some fields' → Keyed (.table fields')

theorem keeps_some : Keeps some := fun _ _ h heq => Option.some.inj heq ▸ h

/-- A key is inserted only if it is free. -/
theorem keeps_insertNew? {value : Datum} (name : String) (hv : value.Keyed) :
    Keeps (insertNew? name value) := by
  intro fields fields' h heq
  rw [insertNew?] at heq
  split at heq
  · cases heq
  · rename_i hfree
    exact Option.some.inj heq ▸ h.concat (Option.not_isSome_iff_eq_none.1 hfree) hv

/-- A table is appended to a list of tables, or starts one where the key is free. -/
theorem keeps_appendTable? (name : String) : Keeps (appendTable? name) := by
  intro fields fields' h heq
  rw [appendTable?] at heq
  have hnew : ∀ d ∈ [Datum.table []], d.Keyed := by simpa using Datum.keyed_empty
  split at heq
  · exact Option.some.inj heq ▸ h.concat ‹_› (.list hnew)
  · rename_i items hitems
    refine Option.some.inj heq ▸ h.store (.list fun d hd => ?_)
    rcases List.mem_append.1 hd with hd | hd
    · exact (h.lookup hitems).items d hd
    · exact hnew d hd
  · cases heq

/-- **A change of the table that a key leads to keeps all keys apart.** -/
theorem Keeps.changeAt? {lists : Bool} {change : Fields → Option Fields} (h : Keeps change)
    (key : Key) : Keeps (changeAt? lists change key) := by
  induction key with
  | nil => exact h
  | cons k rest ih =>
    intro fields fields' hfields heq
    have hinner := hfields.lookup_getD k
    rw [Toml.changeAt?] at heq
    split at heq
    · rename_i inner hk
      rw [hk] at hinner
      obtain ⟨inner', hinner', hstore⟩ := Option.bind_eq_some_iff.1 heq
      exact Option.some.inj hstore ▸ hfields.store (ih _ _ hinner hinner')
    · rename_i items hk
      rw [hk] at hinner
      split at heq
      · split at heq
        · rename_i inner hlast
          obtain ⟨inner', hinner', hstore⟩ := Option.bind_eq_some_iff.1 heq
          have hlast' := hinner.items _ (List.mem_of_getLast? hlast)
          refine Option.some.inj hstore ▸ hfields.store (.list fun d hd => ?_)
          rcases List.mem_append.1 hd with hd | hd
          · exact hinner.items d (List.dropLast_subset _ hd)
          · exact List.mem_singleton.1 hd ▸ ih _ _ hlast' hinner'
        · cases heq
      · cases heq
    · cases heq

/-! ## Values -/

variable {cs rest : List Char} {d : Datum} {fuel : Nat}

/-- A whole number in another base is neither list nor table. -/
theorem isContainer_of_readBased? (h : readBased? cs = some (d, rest)) : isContainer d = false := by
  rw [readBased?.eq_def] at h
  split at h
  · simp only [Option.bind_eq_bind, Option.bind_eq_some_iff] at h
    obtain ⟨base, -, run, -, h⟩ := h
    cases h
    rfl
  · cases h

/-- Neither is a decimal. -/
theorem isContainer_of_readDecimal? (h : readDecimal? cs = some (d, rest)) :
    isContainer d = false := by
  rw [readDecimal?] at h
  simp only [Option.bind_eq_bind, Option.bind_eq_some_iff] at h
  obtain ⟨whole, -, h⟩ := h
  split at h <;> cases h <;> rfl

/-- Neither is a number that is none or has no bound. -/
theorem isContainer_of_readSpecial? (h : readSpecial? cs = some (d, rest)) :
    isContainer d = false := by
  rw [readSpecial?] at h
  dsimp only at h
  split at h
  · cases h
    rfl
  · cases h
    rfl
  · cases h

/-- Neither is a moment. -/
theorem isContainer_of_readMoment? (h : readMoment? cs = some (some (d, rest))) :
    isContainer d = false := by
  rw [readMoment?] at h
  split at h
  · have h := Option.some.inj h
    split at h
    · cases h
      rfl
    · cases h
  · obtain ⟨time, -, h⟩ := Option.map_eq_some_iff.1 h
    cases h
    rfl

/-- What the readers of values and of their parts give, within a number of steps, has every key
once. -/
structure ReadsKeyed (fuel : Nat) : Prop where
  value : ∀ {cs d rest}, readValue? fuel cs = some (d, rest) → d.Keyed
  items : ∀ {done cs d rest}, (∀ x ∈ done, Keyed x) → readItems? fuel done cs = some (d, rest) →
    d.Keyed
  inline : ∀ {closed fields cs d rest}, Keyed (.table fields) →
    readInline? fuel closed fields cs = some (d, rest) → d.Keyed
  pair : ∀ {cs key d rest}, readPair? fuel cs = some (key, d, rest) → d.Keyed

namespace ReadsKeyed

variable (ih : ReadsKeyed fuel)
include ih

/-- A value has its keys apart, if what it holds does. -/
theorem value_succ (h : readValue? (fuel + 1) cs = some (d, rest)) : d.Keyed := by
  have htext {cs : List Char} {f : String × List Char → Datum × List Char}
      (hf : ∀ r, isContainer (f r).1 = false) (h : (readText? cs).map f = some (d, rest)) :
      d.Keyed := by
    obtain ⟨r, -, hr⟩ := Option.map_eq_some_iff.1 h
    exact .plain (by rw [← hf r, hr])
  rw [readValue?.eq_def] at h
  dsimp only at h
  split at h
  · exact htext (fun _ => rfl) h
  · exact htext (fun _ => rfl) h
  · cases h
    exact .plain rfl
  · cases h
    exact .plain rfl
  · obtain ⟨after, -, h⟩ := Option.bind_eq_some_iff.1 h
    split at h
    · cases h
      exact .list (List.forall_mem_nil _)
    · exact ih.items (List.forall_mem_nil _) h
  · split at h
    · cases h
      exact Datum.keyed_empty
    · exact ih.inline Datum.keyed_empty h
  · split at h
    · rename_i hmoment
      exact .plain (isContainer_of_readMoment? (hmoment.trans (congrArg some h)))
    · split at h
      · rename_i hbased
        exact .plain (isContainer_of_readBased? (hbased.trans h))
      · split at h
        · rename_i hdecimal
          exact .plain (isContainer_of_readDecimal? (hdecimal.trans h))
        · exact .plain (isContainer_of_readSpecial? h)

/-- A list has, if the items so far do. -/
theorem items_succ {done : List Datum} (hdone : ∀ x ∈ done, Keyed x)
    (h : readItems? (fuel + 1) done cs = some (d, rest)) : d.Keyed := by
  rw [readItems?] at h
  simp only [Option.bind_eq_bind, Option.bind_eq_some_iff] at h
  obtain ⟨⟨value, cs⟩, hvalue, after, -, h⟩ := h
  have hmore : ∀ x ∈ value :: done, Keyed x := List.forall_mem_cons.2 ⟨ih.value hvalue, hdone⟩
  have hlist : Keyed (.list (value :: done).reverse) :=
    .list fun x hx => hmore x (List.mem_reverse.1 hx)
  split at h
  · cases h
    exact hlist
  · obtain ⟨after, -, h⟩ := Option.bind_eq_some_iff.1 h
    split at h
    · cases h
      exact hlist
    · exact ih.items hmore h
  · cases h

/-- An inline table has: a pair is added only where its key is free. -/
theorem inline_succ {closed : List Key} {fields : Fields} (hfields : Keyed (.table fields))
    (h : readInline? (fuel + 1) closed fields cs = some (d, rest)) : d.Keyed := by
  rw [readInline?] at h
  simp only [Option.bind_eq_bind, Option.bind_eq_some_iff] at h
  obtain ⟨⟨key, value, cs⟩, hpair, h⟩ := h
  split at h
  · cases h
  · obtain ⟨fields', hchange, h⟩ := Option.bind_eq_some_iff.1 h
    have hfields' := (keeps_insertNew? _ (ih.pair hpair)).changeAt? _ _ _ hfields hchange
    split at h
    · cases h
      exact hfields'
    · exact ih.inline hfields' h
    · cases h

/-- The value of a pair has. -/
theorem pair_succ {key : Key} (h : readPair? (fuel + 1) cs = some (key, d, rest)) : d.Keyed := by
  rw [readPair?] at h
  simp only [Option.bind_eq_bind, Option.bind_eq_some_iff] at h
  obtain ⟨keyed, -, h⟩ := h
  split at h
  · obtain ⟨⟨value, cs⟩, hvalue, h⟩ := Option.bind_eq_some_iff.1 h
    cases h
    exact ih.value hvalue
  · cases h

end ReadsKeyed

/-- **Every value that is read has its keys apart.**  By induction on the bound. -/
theorem readsKeyed (fuel : Nat) : ReadsKeyed fuel := by
  induction fuel with
  | zero =>
    constructor
    · intro cs d rest h
      rw [readValue?] at h
      cases h
    · intro done cs d rest _ h
      rw [readItems?] at h
      cases h
    · intro closed fields cs d rest _ h
      rw [readInline?] at h
      cases h
    · intro cs key d rest h
      rw [readPair?] at h
      cases h
  | succ fuel ih => exact ⟨ih.value_succ, ih.items_succ, ih.inline_succ, ih.pair_succ⟩

/-! ## Statements -/

variable {s s' : Shelf}

/-- Opening a table keeps keys apart. -/
theorem Shelf.keyed_openTable? {key : Key} (hs : Keyed (.table s.root))
    (h : s.openTable? key = some s') : Keyed (.table s'.root) := by
  rw [openTable?] at h
  split at h
  · cases h
  · obtain ⟨root, hroot, h⟩ := Option.bind_eq_some_iff.1 h
    exact Option.some.inj h ▸ keeps_some.changeAt? key _ _ hs hroot

/-- So does opening the next item of a list of tables. -/
theorem Shelf.keyed_openItem? {key : Key} (hs : Keyed (.table s.root))
    (h : s.openItem? key = some s') : Keyed (.table s'.root) := by
  rw [openItem?] at h
  split at h
  · cases h
  · obtain ⟨root, hroot, h⟩ := Option.bind_eq_some_iff.1 h
    exact Option.some.inj h ▸ (keeps_appendTable? _).changeAt? _ _ _ hs hroot

/-- So does adding a pair to the table that is open. -/
theorem Shelf.keyed_addPair? {key : Key} {value : Datum} (hs : Keyed (.table s.root))
    (hvalue : value.Keyed) (h : s.addPair? key value = some s') : Keyed (.table s'.root) := by
  rw [addPair?] at h
  split at h
  · cases h
  · split at h
    · cases h
    · obtain ⟨root, hroot, h⟩ := Option.bind_eq_some_iff.1 h
      exact Option.some.inj h ▸ (keeps_insertNew? _ hvalue).changeAt? _ _ _ hs hroot

/-- **A statement keeps all keys apart.** -/
theorem keyed_readStatement? (hs : Keyed (.table s.root))
    (h : readStatement? s cs = some (s', rest)) : Keyed (.table s'.root) := by
  rw [readStatement?.eq_def] at h
  split at h
  · simp only [Option.bind_eq_bind, Option.bind_eq_some_iff] at h
    obtain ⟨key, -, t, ht, h⟩ := h
    split at h
    · cases h
      exact Shelf.keyed_openItem? hs ht
    · cases h
  · simp only [Option.bind_eq_bind, Option.bind_eq_some_iff] at h
    obtain ⟨key, -, t, ht, h⟩ := h
    split at h
    · cases h
      exact Shelf.keyed_openTable? hs ht
    · cases h
  · cases h
    exact hs
  · simp only [Option.bind_eq_bind, Option.bind_eq_some_iff] at h
    obtain ⟨pair, hpair, t, ht, h⟩ := h
    have ht := Shelf.keyed_addPair? hs ((readsKeyed _).pair hpair) ht
    cases h
    exact ht

/-- **Statements keep keys apart**, one after the other. -/
theorem keyed_readStatements? {fuel : Nat} (hs : Keyed (.table s.root))
    (h : readStatements? fuel s cs = some s') : Keyed (.table s'.root) := by
  induction fuel generalizing s cs with
  | zero =>
    rw [readStatements?] at h
    exact Option.some.inj h ▸ hs
  | succ fuel ih =>
    rw [readStatements?] at h
    split at h
    · exact Option.some.inj h ▸ hs
    · exact ih hs h
    · simp only [Option.bind_eq_bind, Option.bind_eq_some_iff] at h
      obtain ⟨⟨t, rest⟩, ht, after, -, h⟩ := h
      have ht := keyed_readStatement? hs ht
      split at h
      · exact Option.some.inj h ▸ ht
      · exact ih ht h
      · cases h

/-- **A settings file gives no key twice.** -/
theorem keyed_of_read? {text : String} {fields : Fields} (h : read? text = some fields) :
    Keyed (.table fields) := by
  obtain ⟨s, hs, rfl⟩ := Option.map_eq_some_iff.1 h
  exact keyed_readStatements? Datum.keyed_empty hs

end Toml

end DefUse
