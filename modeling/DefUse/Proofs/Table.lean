import Mathlib.Data.List.Nodup
import DefUse.File.Tree
import DefUse.Settings.Datum

/-!
# Proofs/Table — tables given as pairs

A directory and a table of a settings file are lists of pairs, each with a way of its own to look a
key up.  Both are `List.lookup` (`Entry.find?_eq_lookup`, `Datum.lookup_eq_lookup`).  Where every
key stands once, a pair is in the list if and only if it is what the look-up gives
(`lookup_eq_some_iff_mem`).
-/

namespace DefUse

section

variable {α β : Type} [BEq α] [LawfulBEq α] {k : α} {v : β} {pairs : List (α × β)}

/-- What is found under a key is there. -/
theorem mem_of_lookup (h : pairs.lookup k = some v) : (k, v) ∈ pairs := by
  obtain ⟨before, after, rfl, -⟩ := List.lookup_eq_some_iff.1 h
  exact List.mem_append_right _ List.mem_cons_self

/-- **What is there is found**, if no key comes twice. -/
theorem lookup_eq_some_iff_mem (h : (pairs.map Prod.fst).Nodup) :
    pairs.lookup k = some v ↔ (k, v) ∈ pairs := by
  refine ⟨mem_of_lookup, fun hmem => ?_⟩
  obtain ⟨before, after, rfl⟩ := List.append_of_mem hmem
  refine List.lookup_eq_some_iff.2 ⟨before, after, rfl, fun p hp => bne_iff_ne.2 fun hk => ?_⟩
  rw [List.map_append, List.map_cons, List.nodup_append] at h
  exact h.2.2 p.1 (List.mem_map_of_mem hp) k List.mem_cons_self hk.symm

/-- Nothing is found exactly if the key is not there. -/
theorem lookup_eq_none_iff_notMem : pairs.lookup k = none ↔ k ∉ pairs.map Prod.fst := by
  rw [List.lookup_eq_none_iff, List.mem_map, not_exists]
  exact forall_congr' fun p => by rw [bne_iff_ne, not_and, ne_comm]

/-- A pair with another key does not matter. -/
theorem lookup_cons_of_ne {m : α} (h : m ≠ k) : ((m, v) :: pairs).lookup k = pairs.lookup k := by
  rw [List.lookup_cons, beq_false_of_ne (Ne.symm h)]

end

/-- Entries of a directory are looked up as in any table. -/
theorem Entry.find?_eq_lookup (n : String) (entries : List (String × Entry)) :
    find? n entries = entries.lookup n := by
  fun_induction find? n entries with
  | case1 => rfl
  | case2 e rest => rw [List.lookup_cons_self]
  | case3 m e rest hne ih => rw [ih, lookup_cons_of_ne hne]

/-- So are fields of a datum. -/
theorem Datum.lookup_eq_lookup (k : String) (fields : List (String × Datum)) :
    lookup k fields = fields.lookup k := by
  fun_induction lookup k fields with
  | case1 => rfl
  | case2 d rest => rw [List.lookup_cons_self]
  | case3 m d rest hne ih => rw [ih, lookup_cons_of_ne hne]

end DefUse
