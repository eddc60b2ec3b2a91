import DefUse.Scope.Basic

/-!
# Proofs/Scope/Laws — what each request does to the open scopes

A request is granted exactly where a scope is open while the two stacks are in step
(`level_eq_ok_iff`).  What a granted request does is said once for each of them, through the views
`definedAt` and `usedAt`: `define` adds one name to one scope, `use` records one name in one scope,
and `push` followed by `pop` changes nothing.

`Scopes.Sees` is visibility on its own terms, some scope no deeper than the depth defining the name;
`Balanced.visible_eq_ok` says that the answer to a request agrees with it.
-/

namespace DefUse.Scopes

variable {s t : Scopes} {n m : String} {d : Int} {k j : Nat}

/-- **The two stacks are in step**, and the global scope is open. -/
structure Balanced (s : Scopes) : Prop where
  inStep : s.defined.length = s.used.length
  global : 0 < s.defined.length

/-- A scope is open at a depth. -/
def IsOpen (s : Scopes) (d : Int) : Prop := 0 ≤ d ∧ d < s.defined.length

instance : Decidable (s.IsOpen d) := inferInstanceAs (Decidable (_ ∧ _))

/-- **A name is defined at a depth or further out.** -/
def Sees (s : Scopes) (n : String) (d : Int) : Prop := ∃ k : Nat, (k : Int) ≤ d ∧ n ∈ s.definedAt k

instance : Decidable (s.Sees n d) :=
  decidable_of_iff (∃ k, k < (d + 1).toNat ∧ n ∈ s.definedAt k)
    ⟨fun ⟨k, hk, hn⟩ => ⟨k, by omega, hn⟩, fun ⟨k, hk, hn⟩ => ⟨k, by omega, hn⟩⟩

/-- There is one more scope than the depth. -/
theorem Balanced.depth_add_one (h : s.Balanced) : s.depth + 1 = s.defined.length :=
  Nat.sub_add_cancel h.global

theorem Balanced.isOpen_depth (h : s.Balanced) : s.IsOpen s.depth := by
  have := h.depth_add_one
  exact ⟨by omega, by omega⟩

theorem Balanced.isOpen_zero (h : s.Balanced) : s.IsOpen 0 :=
  ⟨Int.le_refl 0, Int.natCast_pos.2 h.global⟩

/-! ## Granting a request -/

/-- **A depth is granted** exactly where a scope is open, the stacks being in step. -/
theorem level_eq_ok_iff :
    s.level d = .ok k ↔
      (k : Int) = d ∧ k < s.defined.length ∧ s.defined.length = s.used.length := by
  unfold level
  split
  · constructor
    · intro h
      cases h
    · rintro ⟨rfl, hk, -⟩
      omega
  · split
    · constructor
      · intro h
        cases h
      · rintro ⟨-, -, h⟩
        contradiction
    · simp only [Except.ok.injEq]
      omega

/-- Balanced scopes grant every depth at which one is open. -/
theorem Balanced.level_eq_ok (h : s.Balanced) (hd : s.IsOpen d) : s.level d = .ok d.toNat := by
  obtain ⟨h0, hlt⟩ := hd
  exact level_eq_ok_iff.2 ⟨Int.toNat_of_nonneg h0, by omega, h.inStep⟩

/-- …and refuse every other one. -/
theorem exists_level_eq_error (hd : ¬ s.IsOpen d) : ∃ f, s.level d = .error f := by
  cases h : s.level d with
  | error f => exact ⟨f, rfl⟩
  | ok k =>
    obtain ⟨rfl, hk, -⟩ := level_eq_ok_iff.1 h
    exact absurd ⟨Int.natCast_nonneg k, by omega⟩ hd

/-! ## Owners and visibility -/

/-- The owner of a name defines it, and stands no deeper than it was looked for. -/
theorem owner?_eq_some (h : s.owner? n k = some j) : j ≤ k ∧ n ∈ s.definedAt j := by
  induction k with
  | zero =>
    simp only [owner?] at h
    split at h
    · obtain rfl := Option.some.inj h
      exact ⟨Nat.le_refl 0, ‹_›⟩
    · cases h
  | succ k ih =>
    simp only [owner?] at h
    split at h
    · obtain rfl := Option.some.inj h
      exact ⟨Nat.le_refl _, ‹_›⟩
    · exact ⟨Nat.le_succ_of_le (ih h).1, (ih h).2⟩

/-- A name has an owner as soon as some scope no deeper defines it. -/
theorem isSome_owner? (hj : j ≤ k) (hn : n ∈ s.definedAt j) : (s.owner? n k).isSome := by
  induction k with
  | zero =>
    obtain rfl : j = 0 := Nat.le_zero.1 hj
    simp [owner?, hn]
  | succ k ih =>
    simp only [owner?]
    split
    · rfl
    · rename_i hk
      have hne : j ≠ k + 1 := fun e => hk (e ▸ hn)
      exact ih (by omega)

/-- **A name has an owner exactly where it is seen.** -/
theorem isSome_owner?_iff : (s.owner? n k).isSome ↔ s.Sees n k := by
  constructor
  · intro h
    obtain ⟨j, hj⟩ := Option.isSome_iff_exists.1 h
    exact ⟨j, by have := (owner?_eq_some hj).1; omega, (owner?_eq_some hj).2⟩
  · rintro ⟨j, hj, hn⟩
    exact isSome_owner? (by omega) hn

/-- The owner of a name depends on the scopes only by where the name is defined. -/
theorem owner?_congr (h : ∀ i, n ∈ s.definedAt i ↔ n ∈ t.definedAt i) :
    s.owner? n k = t.owner? n k := by
  induction k with
  | zero => simp only [owner?, h]
  | succ k ih => simp only [owner?, h, ih]

/-- A name has an owner exactly if it can be seen. -/
theorem isSome_owner?_toNat (hd : 0 ≤ d) :
    (s.owner? n d.toNat).isSome = decide (s.Sees n d) := by
  rw [Bool.eq_iff_iff, isSome_owner?_iff, Int.toNat_of_nonneg hd, decide_eq_true_iff]

/-- A name is looked up at the level that a depth stands for. -/
theorem find_eq_ok_iff {o : Option Nat} :
    s.find n d = .ok o ↔ ∃ k, s.level d = .ok k ∧ s.owner? n k = o := by
  unfold find
  cases s.level d <;> simp [Except.map]

/-- **Visibility is answered as it is.** -/
theorem Balanced.visible_eq_ok (h : s.Balanced) (hd : s.IsOpen d) :
    s.visible n d = .ok (decide (s.Sees n d)) := by
  rw [visible, find, h.level_eq_ok hd]
  exact congrArg Except.ok (isSome_owner?_toNat hd.1)

/-! ## Views after a change

Both stacks hold sets of names by depth, so what a change does to a view is said once for a
stack. -/

/-- A name that is added at a level is there and nowhere else. -/
theorem getD_modify_add (stack : List Names) :
    (stack.modify k (·.add n))[j]?.getD [] =
      if k = j ∧ j < stack.length then (stack[j]?.getD []).add n else stack[j]?.getD [] := by
  rw [List.getElem?_modify]
  by_cases hj : j < stack.length
  · by_cases hk : k = j <;> simp [hj, hk]
  · simp [hj]

theorem getD_append_empty (stack : List Names) :
    (stack ++ [[]])[k]?.getD [] = stack[k]?.getD [] := by
  rcases Nat.lt_or_ge k stack.length with h | h
  · rw [List.getElem?_append_left h]
  · rw [List.getElem?_append_right h, List.getElem?_eq_none h]
    cases k - stack.length <;> rfl

/-- Dropping the last level changes no other. -/
theorem getD_dropLast {stack : List Names} (hk : k + 1 < stack.length) :
    stack.dropLast[k]?.getD [] = stack[k]?.getD [] := by
  rw [List.getElem?_dropLast, if_pos (by omega)]

/-- The scopes after a name is defined at a level. -/
abbrev addDefined (s : Scopes) (k : Nat) (n : String) : Scopes :=
  { s with defined := s.defined.modify k (·.add n) }

/-- The scopes after the use of a name is recorded at a level. -/
abbrev addUsed (s : Scopes) (k : Nat) (n : String) : Scopes :=
  { s with used := s.used.modify k (·.add n) }

/-- **All that defining a name does**: it is added at its level. -/
theorem define_eq_ok_iff {isLocal : Bool} :
    s.define n d isLocal = .ok (k, t) ↔
      s.level (target d isLocal) = .ok k ∧ t = s.addDefined k n := by
  unfold define
  cases s.level (target d isLocal) with
  | error f => simp [Except.map]
  | ok l =>
    simp only [Except.map, Except.ok.injEq, Prod.mk.injEq]
    constructor
    · rintro ⟨rfl, rfl⟩
      exact ⟨rfl, rfl⟩
    · rintro ⟨rfl, rfl⟩
      exact ⟨rfl, rfl⟩

/-- **All that using a name does**: it is looked up and noted at its level. -/
theorem use_eq_ok_iff {seen : Bool} :
    s.use n d = .ok (seen, t) ↔
      ∃ k, s.level d = .ok k ∧ (s.owner? n k).isSome = seen ∧ t = s.addUsed k n := by
  unfold use
  cases s.level d with
  | error f => simp [Except.map]
  | ok l => simp [Except.map, eq_comm]

/-- A name is defined at one level. -/
theorem definedAt_addDefined :
    (s.addDefined k n).definedAt j =
      if k = j ∧ j < s.defined.length then (s.definedAt j).add n else s.definedAt j :=
  getD_modify_add s.defined

/-- A name is noted as used at one level. -/
theorem usedAt_addUsed :
    (s.addUsed k n).usedAt j =
      if k = j ∧ j < s.used.length then (s.usedAt j).add n else s.usedAt j :=
  getD_modify_add s.used

/-- Defining a name where it is defined already changes nothing. -/
theorem addDefined_of_mem (h : n ∈ s.definedAt k) : s.addDefined k n = s := by
  have key : s.defined.modify k (·.add n) = s.defined := by
    refine List.ext_getElem? fun j => ?_
    rw [List.getElem?_modify]
    cases hj : s.defined[j]? with
    | none => rfl
    | some names =>
      by_cases hk : k = j
      · subst hk
        have hn : n ∈ names := by simpa [definedAt, hj] using h
        simp [Names.add, hn]
      · simp [hk]
  simp [addDefined, key]

theorem Balanced.addDefined (h : s.Balanced) : (s.addDefined k n).Balanced :=
  ⟨by simpa using h.inStep, by simpa using h.global⟩

theorem Balanced.addUsed (h : s.Balanced) : (s.addUsed k n).Balanced :=
  ⟨by simpa using h.inStep, by simpa using h.global⟩

/-! ## Opening and closing -/

theorem Balanced.push (h : s.Balanced) : s.push.Balanced :=
  ⟨by simpa [Scopes.push] using h.inStep, by simp [Scopes.push]⟩

theorem depth_push (s : Scopes) : s.push.depth = s.defined.length := by simp [push, depth]

/-- The scopes without the innermost one. -/
abbrev dropInnermost (s : Scopes) : Scopes := ⟨s.defined.dropLast, s.used.dropLast⟩

/-- Closing a scope right after it was opened changes nothing. -/
theorem dropInnermost_push (s : Scopes) : s.push.dropInnermost = s := by
  simp [dropInnermost, push]

/-- **A scope other than the global one can always be closed.** -/
theorem Balanced.pop_eq (h : s.Balanced) (hlt : 1 < s.defined.length) :
    s.pop = (.ok (), s.dropInnermost) := by
  have hu : s.used ≠ [] := by
    rw [← List.length_pos_iff, ← h.inStep]
    exact h.global
  rw [pop, if_neg (by omega)]
  simp [dropUsed, hu]

/-- The global scope is never closed. -/
theorem pop_of_length_le (hle : s.defined.length ≤ 1) : s.pop = (.error .globalScope, s) := by
  rw [pop, if_pos hle]

/-- What is defined outside the innermost scope stays. -/
theorem definedAt_dropInnermost (hk : k + 1 < s.defined.length) :
    s.dropInnermost.definedAt k = s.definedAt k := getD_dropLast hk

theorem usedAt_dropInnermost (hk : k + 1 < s.used.length) :
    s.dropInnermost.usedAt k = s.usedAt k := getD_dropLast hk

/-- A new scope starts empty and changes no other. -/
theorem definedAt_push : s.push.definedAt k = s.definedAt k := getD_append_empty s.defined

theorem usedAt_push : s.push.usedAt k = s.usedAt k := getD_append_empty s.used

end DefUse.Scopes
