import Mathlib.Data.List.Induction
import Mathlib.Order.Bounds.Basic
import DefUse.Proofs.Check.Effects

/-!
# Proofs/Scope/Lifetimes — a scope holds what was granted in its lifetime

Depths are used over and over: a scope is closed, and another one is opened in its place.  Which
scope a depth stands for is a matter of the history of requests.  `births` tells when each of the
open scopes was opened, and `MadeSince` is about the requests that were granted since then.

`View.mem_iff` goes through a history one request at a time and says that a view of a scope shows
what was granted in the lifetime of that scope.  The names it defines and the names it uses are two
such views, and the owner of a name follows from the first (`owner?_eq_some_iff`).
-/

namespace DefUse.Scopes

variable {s : Scopes} {n m : String} {j k : Nat} {calls : List Call} {c : Call}

/-! ## Requests, granted and refused -/

/-- The scopes after a history of requests, granted or refused. -/
def afterAll (s : Scopes) (calls : List Call) : Scopes :=
  calls.foldl (fun s c => (c.perform s).scopes) s

theorem afterAll_append (s : Scopes) (calls rest : List Call) :
    s.afterAll (calls ++ rest) = (s.afterAll calls).afterAll rest := List.foldl_append

theorem afterAll_concat (s : Scopes) (calls : List Call) (c : Call) :
    s.afterAll (calls ++ [c]) = (c.perform (s.afterAll calls)).scopes := afterAll_append s calls [c]

theorem Balanced.afterAll (h : s.Balanced) (calls : List Call) : (s.afterAll calls).Balanced := by
  induction calls generalizing s with
  | nil => exact h
  | cons c calls ih => exact ih (h.perform c)

theorem balanced_initial : initial.Balanced := ⟨rfl, Nat.one_pos⟩

/-- **A request is granted** if it is answered. -/
def Call.Granted (s : Scopes) (c : Call) : Prop := ∃ a, (c.perform s).result = .ok a

/-- The depth that a request takes effect at, if it is about a depth. -/
def Call.place? : Call → Option (Except Failure Int)
  | .push | .pop => none
  | .define _ depth isLocal | .declare _ depth isLocal => some (targetOf depth isLocal)
  | .use _ depth | .visible _ depth | .find _ depth | .members _ depth | .contents depth =>
    some (depthOf depth)

/-- **A request about a depth comes down to the level that the depth stands for.**  It is granted if
there is one; if there is none it is refused, and changes nothing. -/
theorem perform_of_place {place : Except Failure Int} (hc : c.place? = some place) :
    (∀ k, place >>= s.level = .ok k → c.Granted s) ∧
      ∀ f, place >>= s.level = .error f → c.perform s = ⟨.error f, s, []⟩ := by
  cases c with
  | push => cases hc
  | pop => cases hc
  | define n depth isLocal =>
    obtain rfl := Option.some.inj hc
    cases hd : targetOf depth isLocal with
    | error f => simp [Call.Granted, Call.perform, hd, bind, Except.bind, Outcome.query]
    | ok d =>
      have hdefine : s.define n d true = (s.level d).map fun k => (k, s.addDefined k n) := rfl
      cases hl : s.level d <;>
        simp [Call.Granted, Call.perform, hd, bind, Except.bind, hdefine, hl, Except.map,
          Outcome.query]
  | use n depth =>
    obtain rfl := Option.some.inj hc
    cases hd : depthOf depth with
    | error f => simp [Call.Granted, Call.perform, hd, bind, Except.bind, Outcome.query]
    | ok d =>
      cases hl : s.level d <;>
        simp [Call.Granted, Call.perform, hd, bind, Except.bind, use, hl, Except.map, Outcome.query]
  | declare n depth isLocal =>
    obtain rfl := Option.some.inj hc
    cases hd : targetOf depth isLocal with
    | error f => simp [Call.Granted, Call.perform, hd, bind, Except.bind, Except.map, Outcome.query]
    | ok d =>
      cases hl : s.level d <;>
        simp [Call.Granted, Call.perform, hd, bind, Except.bind, visible, find, hl, Except.map,
          Outcome.query]
  | visible n depth | find n depth | members n depth | contents depth =>
    obtain rfl := Option.some.inj hc
    cases hd : depthOf depth with
    | error f => simp [Call.Granted, Call.perform, hd, bind, Except.bind, Except.map, Outcome.query]
    | ok d =>
      cases hl : s.level d <;>
        simp [Call.Granted, Call.perform, hd, bind, Except.bind, visible, find, members, hl,
          Except.map, Outcome.query]

/-- A request about a depth is granted exactly where a scope is open. -/
theorem Balanced.granted_iff (h : s.Balanced) {place : Except Failure Int}
    (hc : c.place? = some place) : c.Granted s ↔ ∃ d, place = .ok d ∧ s.IsOpen d := by
  obtain ⟨hgranted, hrefused⟩ := perform_of_place (s := s) hc
  constructor
  · rintro ⟨a, ha⟩
    cases hl : place >>= s.level with
    | error f =>
      rw [hrefused f hl] at ha
      cases ha
    | ok k =>
      cases place with
      | error f => cases hl
      | ok d =>
        obtain ⟨rfl, hk, -⟩ := level_eq_ok_iff.1 hl
        exact ⟨k, rfl, Int.natCast_nonneg k, by omega⟩
  · rintro ⟨d, rfl, hd⟩
    exact hgranted _ (h.level_eq_ok hd)

/-- **A request that is refused changes nothing.** -/
theorem Balanced.perform_of_error (h : s.Balanced) {f : Failure}
    (hf : (c.perform s).result = .error f) : (c.perform s).scopes = s := by
  cases hc : c.place? with
  | some place =>
    obtain ⟨hgranted, hrefused⟩ := perform_of_place (s := s) hc
    cases hl : place >>= s.level with
    | error g => rw [hrefused g hl]
    | ok k =>
      obtain ⟨a, ha⟩ := hgranted k hl
      cases hf.symm.trans ha
  | none =>
    cases c with
    | push => cases hf
    | pop =>
      by_cases hlt : 1 < s.defined.length
      · rw [Call.perform, h.pop_eq hlt] at hf
        cases hf
      · rw [h.scopes_pop, if_neg hlt]
    | _ => cases hc

/-- The last scope is refused to be closed, and every other one is closed. -/
theorem Balanced.pop_eq_error_iff (h : s.Balanced) :
    (Call.pop.perform s).result = .error .globalScope ↔ s.defined.length = 1 := by
  have hglobal := h.global
  by_cases hlt : 1 < s.defined.length
  · rw [Call.perform, h.pop_eq hlt]
    simp only [Except.map, reduceCtorEq, false_iff]
    omega
  · rw [Call.perform, pop_of_length_le (by omega)]
    simp only [true_iff]
    omega

/-! ## When the open scopes were opened -/

/-- What a request does to the times at which the open scopes were opened, made at a time. -/
def Call.age (births : List Nat) (time : Nat) : Call → List Nat
  | .push => births ++ [time]
  | .pop => if births.length ≤ 1 then births else births.dropLast
  | _ => births

/-- **When the open scopes were opened**, the global one first: the number of requests made by then.
The global scope is there from the beginning. -/
def births (calls : List Call) : List Nat :=
  (calls.zipIdx 1).foldl (fun births call => call.1.age births call.2) [0]

theorem births_concat (calls : List Call) (c : Call) :
    births (calls ++ [c]) = c.age (births calls) (calls.length + 1) := by
  rw [births, List.zipIdx_append, List.foldl_append, Nat.add_comm]
  rfl

theorem Call.age_of_place {births : List Nat} {time : Nat} (hc : c.place?.isSome) :
    c.age births time = births := by
  cases c with
  | push => cases hc
  | pop => cases hc
  | _ => rfl

/-- A request about a depth leaves as many scopes open as there were. -/
theorem Balanced.length_perform_of_place (h : s.Balanced) (hc : c.place?.isSome) :
    (c.perform s).scopes.defined.length = s.defined.length := by
  cases c with
  | push => cases hc
  | pop => cases hc
  | define n depth isLocal =>
    rw [h.scopes_define]
    split
    · split <;> simp
    · rfl
  | use n depth =>
    rw [h.scopes_use]
    split
    · split <;> rfl
    · rfl
  | _ => rfl

/-- There is a time for each of the open scopes. -/
theorem length_births (calls : List Call) :
    (births calls).length = (initial.afterAll calls).defined.length := by
  induction calls using List.reverseRecOn with
  | nil => rfl
  | append_singleton calls c ih =>
    have h := balanced_initial.afterAll calls
    rw [births_concat, afterAll_concat]
    cases hc : c.place? with
    | some place =>
      have hsome : c.place?.isSome := by rw [hc]; rfl
      rw [Call.age_of_place hsome, h.length_perform_of_place hsome, ih]
    | none =>
      cases c with
      | push => simp [Call.age, Call.perform, push, ih]
      | pop =>
        rw [Call.age, h.scopes_pop, ← ih]
        split
        · rw [if_neg (by omega), ih]
        · rw [if_pos (by omega), List.length_dropLast, List.length_dropLast, ih]
      | _ => cases hc

/-- No scope was opened later than now. -/
theorem le_of_mem_births {born : Nat} (h : born ∈ births calls) : born ≤ calls.length := by
  induction calls using List.reverseRecOn with
  | nil => exact Nat.le_of_eq (List.mem_singleton.1 h)
  | append_singleton calls c ih =>
    rw [List.length_append, List.length_singleton]
    rw [births_concat] at h
    unfold Call.age at h
    split at h
    · rcases List.mem_append.1 h with h | h
      · exact Nat.le_succ_of_le (ih h)
      · exact Nat.le_of_eq (List.mem_singleton.1 h)
    · split at h
      · exact Nat.le_succ_of_le (ih h)
      · exact Nat.le_succ_of_le (ih (List.dropLast_subset _ h))
    · exact Nat.le_succ_of_le (ih h)

/-! ## The lifetime of a scope -/

/-- A request was made at a place of a history, and granted. -/
def GrantedAt (calls : List Call) (i : Nat) (c : Call) : Prop :=
  calls[i]? = some c ∧ c.Granted (initial.afterAll (calls.take i))

/-- **A request of a kind was granted since the scope now at a depth was opened.** -/
def MadeSince (calls : List Call) (k : Nat) (P : Call → Prop) : Prop :=
  ∃ born i c, (births calls)[k]? = some born ∧ born ≤ i ∧ GrantedAt calls i c ∧ P c

theorem GrantedAt.lt_length {i : Nat} (h : GrantedAt calls i c) : i < calls.length :=
  (List.getElem?_eq_some_iff.1 h.1).1

/-- What one more request adds to those that were granted. -/
theorem grantedAt_concat {c' : Call} {i : Nat} :
    GrantedAt (calls ++ [c']) i c ↔
      GrantedAt calls i c ∨ i = calls.length ∧ c = c' ∧ c.Granted (initial.afterAll calls) := by
  rcases Nat.lt_trichotomy i calls.length with hi | rfl | hi
  · simp [GrantedAt, List.getElem?_append_left hi, List.take_append_of_le_length (Nat.le_of_lt hi),
      Nat.ne_of_lt hi]
  · simp [GrantedAt, eq_comm]
  · have hnone : (calls ++ [c'])[i]? = none := List.getElem?_eq_none (by simp; omega)
    simp [GrantedAt, hnone, List.getElem?_eq_none (Nat.le_of_lt hi), Nat.ne_of_gt hi]

/-- A request that is not of the kind, and under which the scope stays the one it was, changes
nothing. -/
theorem madeSince_concat_of_not {P : Call → Prop} (hP : ¬ P c)
    (hbirth : (births (calls ++ [c]))[k]? = (births calls)[k]?) :
    MadeSince (calls ++ [c]) k P ↔ MadeSince calls k P := by
  unfold MadeSince
  simp only [hbirth, grantedAt_concat]
  constructor
  · rintro ⟨born, i, c', hborn, hle, hgranted | ⟨-, rfl, -⟩, hc'⟩
    · exact ⟨born, i, c', hborn, hle, hgranted, hc'⟩
    · exact absurd hc' hP
  · rintro ⟨born, i, c', hborn, hle, hgranted, hc'⟩
    exact ⟨born, i, c', hborn, hle, Or.inl hgranted, hc'⟩

/-- Nothing was made in a scope that was opened just now, or that is not there. -/
theorem not_madeSince {P : Call → Prop}
    (h : ∀ born, (births calls)[k]? = some born → calls.length ≤ born) : ¬ MadeSince calls k P := by
  rintro ⟨born, i, c, hborn, hle, hgranted, -⟩
  have hlt := hgranted.lt_length
  have hlate := h born hborn
  omega

/-- Opening a scope leaves the others as they are, and nothing was made in the new one. -/
theorem madeSince_push {P : Call → Prop} (hP : ¬ P .push) :
    MadeSince (calls ++ [.push]) k P ↔ MadeSince calls k P := by
  rcases Nat.lt_or_ge k (births calls).length with hk | hk
  · refine madeSince_concat_of_not hP ?_
    rw [births_concat, Call.age, List.getElem?_append_left hk]
  · have hnew : ∀ born, (births (calls ++ [.push]))[k]? = some born →
        (calls ++ [Call.push]).length ≤ born := by
      intro born hborn
      rw [births_concat, Call.age, List.getElem?_append_right hk] at hborn
      have hmem := List.mem_of_getElem? hborn
      rw [List.length_append, List.length_singleton, List.mem_singleton.1 hmem]
    have hold : ∀ born, (births calls)[k]? = some born → calls.length ≤ born := by
      intro born hborn
      rw [List.getElem?_eq_none hk] at hborn
      cases hborn
    exact iff_of_false (not_madeSince hnew) (not_madeSince hold)

/-- Closing a scope leaves the others as they are, and the closed one is not there. -/
theorem madeSince_pop {P : Call → Prop} (hP : ¬ P .pop) (hlt : 1 < (births calls).length) :
    MadeSince (calls ++ [.pop]) k P ↔ k + 1 < (births calls).length ∧ MadeSince calls k P := by
  have hbirths : births (calls ++ [.pop]) = (births calls).dropLast := by
    rw [births_concat, Call.age, if_neg (by omega)]
  by_cases hk : k + 1 < (births calls).length
  · rw [madeSince_concat_of_not hP, and_iff_right hk]
    rw [hbirths, List.getElem?_dropLast, if_pos (by omega)]
  · have hgone : ∀ born, (births (calls ++ [.pop]))[k]? = some born →
        (calls ++ [Call.pop]).length ≤ born := by
      intro born hborn
      rw [hbirths, List.getElem?_dropLast, if_neg (by omega)] at hborn
      cases hborn
    exact iff_of_false (not_madeSince hgone) fun h => hk h.1

/-- The global scope is not closed, so that the attempt changes nothing. -/
theorem madeSince_pop_of_le {P : Call → Prop} (hP : ¬ P .pop) (hle : (births calls).length ≤ 1) :
    MadeSince (calls ++ [.pop]) k P ↔ MadeSince calls k P := by
  refine madeSince_concat_of_not hP ?_
  rw [births_concat, Call.age, if_pos hle]

/-- **A request about a depth at which a scope is open** is one more that was made since. -/
theorem madeSince_of_place {P : Call → Prop} (hc : c.place?.isSome)
    (hopen : c.Granted (initial.afterAll calls) → P c → k < (births calls).length) :
    MadeSince (calls ++ [c]) k P ↔
      MadeSince calls k P ∨ c.Granted (initial.afterAll calls) ∧ P c := by
  unfold MadeSince
  simp only [births_concat, Call.age_of_place hc, grantedAt_concat]
  constructor
  · rintro ⟨born, i, c', hborn, hle, hgranted | ⟨-, rfl, hgranted⟩, hc'⟩
    · exact Or.inl ⟨born, i, c', hborn, hle, hgranted, hc'⟩
    · exact Or.inr ⟨hgranted, hc'⟩
  · rintro (⟨born, i, c', hborn, hle, hgranted, hc'⟩ | ⟨hgranted, hP⟩)
    · exact ⟨born, i, c', hborn, hle, Or.inl hgranted, hc'⟩
    · have hk := hopen hgranted hP
      exact ⟨_, calls.length, c, List.getElem?_eq_getElem hk,
        le_of_mem_births (List.getElem_mem hk), Or.inr ⟨rfl, rfl, hgranted⟩, hP⟩

/-! ## What a scope holds -/

/-- **A view of the scope at a depth** shows names that requests of a kind put there: none to begin
with, and none by opening or closing other scopes. -/
structure View (k : Nat) (n : String) (view : Scopes → Names) (P : Call → Prop) : Prop where
  initial : n ∉ view initial
  push : ∀ s : Scopes, n ∈ view s.push ↔ n ∈ view s
  dropInnermost : ∀ {s : Scopes}, s.Balanced →
    (n ∈ view s.dropInnermost ↔ k + 1 < s.defined.length ∧ n ∈ view s)
  perform : ∀ {s : Scopes} {c : Call} {d : Int}, s.Balanced → c.place? = some (.ok d) →
    s.IsOpen d → (n ∈ view (c.perform s).scopes ↔ n ∈ view s ∨ P c)
  place : ∀ {c : Call}, P c → c.place? = some (.ok k)

/-- A request about a depth shows in a view if it is granted and of the kind. -/
theorem View.mem_perform {view : Scopes → Names} {P : Call → Prop} (h : View k n view P)
    (hs : s.Balanced) {place : Except Failure Int} (hc : c.place? = some place) :
    n ∈ view (c.perform s).scopes ↔ n ∈ view s ∨ c.Granted s ∧ P c := by
  by_cases hgranted : c.Granted s
  · obtain ⟨d, rfl, hd⟩ := (hs.granted_iff hc).1 hgranted
    rw [h.perform hs hc hd, and_iff_right hgranted]
  · have hsame : (c.perform s).scopes = s := by
      cases hr : (c.perform s).result with
      | error f => exact hs.perform_of_error hr
      | ok a => exact absurd ⟨a, hr⟩ hgranted
    rw [hsame, or_iff_left fun hboth => hgranted hboth.1]

/-- **A view shows what was granted in the lifetime of the scope.** -/
theorem View.mem_iff {view : Scopes → Names} {P : Call → Prop} (h : View k n view P)
    (calls : List Call) : n ∈ view (Scopes.initial.afterAll calls) ↔ MadeSince calls k P := by
  have hpush : ¬ P .push := fun hP => by cases h.place hP
  have hpop : ¬ P .pop := fun hP => by cases h.place hP
  induction calls using List.reverseRecOn with
  | nil => exact iff_of_false h.initial (not_madeSince fun born _ => Nat.zero_le born)
  | append_singleton calls c ih =>
    have hs := balanced_initial.afterAll calls
    have hlength := length_births calls
    rw [afterAll_concat]
    cases hc : c.place? with
    | some place =>
      -- a request of the kind that is granted is about this very depth, so the scope is there
      have hopen : c.Granted (Scopes.initial.afterAll calls) → P c → k < (births calls).length := by
        intro hgranted hP
        obtain ⟨d, hd, hopen⟩ := (hs.granted_iff (h.place hP)).1 hgranted
        obtain rfl := Except.ok.inj hd
        have hlt := hopen.2
        omega
      rw [h.mem_perform hs hc, madeSince_of_place (by rw [hc]; rfl) hopen]
      exact or_congr_left ih
    | none =>
      cases c with
      | push => exact (h.push _).trans (ih.trans (madeSince_push hpush).symm)
      | pop =>
        by_cases hlt : 1 < (births calls).length
        · rw [hs.scopes_pop, if_pos (by omega), h.dropInnermost hs, madeSince_pop hpop hlt, hlength]
          exact and_congr_right' ih
        · rw [hs.scopes_pop, if_neg (by omega), madeSince_pop_of_le hpop (by omega)]
          exact ih
      | _ => cases hc

theorem IsOpen.toNat_lt {d : Int} (hd : s.IsOpen d) : d.toNat < s.defined.length := by
  obtain ⟨h0, hlt⟩ := hd
  omega

theorem IsOpen.eq_toNat_iff {d : Int} (hd : s.IsOpen d) : k = d.toNat ↔ d = k := by
  obtain ⟨h0, -⟩ := hd
  omega

/-- A request to define a name, with effect at a depth. -/
def Call.Defines (n : String) (k : Nat) : Call → Prop
  | .define m depth isLocal => m = n ∧ targetOf depth isLocal = .ok k
  | _ => False

/-- A request to use a name at a depth. -/
def Call.Uses (n : String) (k : Nat) : Call → Prop
  | .use m depth => m = n ∧ depthOf depth = .ok k
  | _ => False

theorem mem_usedAt_addUsed (hk : k < s.used.length) :
    m ∈ (s.addUsed k n).usedAt j ↔ m ∈ s.usedAt j ∨ j = k ∧ m = n := by
  rw [usedAt_addUsed]
  by_cases hj : j = k
  · subst hj
    simp [hk]
  · have hne : ¬ (k = j ∧ j < s.used.length) := fun h => hj h.1.symm
    simp [if_neg hne, hj]

theorem usedAt_dropInnermost_eq (s : Scopes) (k : Nat) :
    s.dropInnermost.usedAt k = if k + 1 < s.used.length then s.usedAt k else [] := by
  split
  · exact usedAt_dropInnermost ‹_›
  · refine usedAt_of_le ?_
    rw [List.length_dropLast]
    omega

/-- **A scope defines the names that were defined in its lifetime.** -/
theorem view_definedAt (k : Nat) (n : String) : View k n (·.definedAt k) (Call.Defines n k) where
  initial := by rcases k with _ | k <;> exact List.not_mem_nil
  push s := by rw [definedAt_push]
  dropInnermost {s} _ := by
    rw [definedAt_dropInnermost_eq]
    split <;> simp_all
  perform {s c d} h hc hd := by
    cases c with
    | push => cases hc
    | pop => cases hc
    | define m depth isLocal =>
      have ht : targetOf depth isLocal = .ok d := Option.some.inj hc
      have hk : k = d.toNat ↔ d = k := hd.eq_toNat_iff
      rw [h.scopes_define, Call.Defines, ht]
      simp only [if_pos hd, mem_definedAt_addDefined hd.toNat_lt, hk, Except.ok.injEq, and_comm,
        eq_comm]
    | use m depth =>
      have ht : depthOf depth = .ok d := Option.some.inj hc
      rw [h.scopes_use, ht]
      simp only [if_pos hd, Call.Defines, or_false]
      rfl
    | _ => exact (or_iff_left id).symm
  place {c} hP := by
    cases c with
    | define m depth isLocal => exact congrArg some hP.2
    | _ => exact hP.elim

/-- **A scope uses the names that were used in its lifetime.** -/
theorem view_usedAt (k : Nat) (n : String) : View k n (·.usedAt k) (Call.Uses n k) where
  initial := by rcases k with _ | k <;> exact List.not_mem_nil
  push s := by rw [usedAt_push]
  dropInnermost {s} h := by
    rw [usedAt_dropInnermost_eq, h.inStep]
    split <;> simp_all
  perform {s c d} h hc hd := by
    cases c with
    | push => cases hc
    | pop => cases hc
    | define m depth isLocal =>
      have ht : targetOf depth isLocal = .ok d := Option.some.inj hc
      rw [h.scopes_define, ht]
      simp only [if_pos hd, Call.Uses, or_false]
      rfl
    | use m depth =>
      have ht : depthOf depth = .ok d := Option.some.inj hc
      have hlt : d.toNat < s.used.length := h.inStep ▸ hd.toNat_lt
      have hk : k = d.toNat ↔ d = k := hd.eq_toNat_iff
      rw [h.scopes_use, Call.Uses, ht]
      simp only [if_pos hd, mem_usedAt_addUsed hlt, hk, Except.ok.injEq, and_comm, eq_comm]
    | _ => exact (or_iff_left id).symm
  place {c} hP := by
    cases c with
    | use m depth => exact congrArg some hP.2
    | _ => exact hP.elim

/-! ## Owners -/

/-- No scope further in than the owner defines the name. -/
theorem le_of_owner?_eq_some {i : Nat} (h : s.owner? n k = some j) (hi : i ≤ k)
    (hn : n ∈ s.definedAt i) : i ≤ j := by
  induction k with
  | zero => exact Nat.le_trans hi (Nat.zero_le j)
  | succ k ih =>
    rw [owner?] at h
    split at h
    · exact Option.some.inj h ▸ hi
    · rename_i hk
      have hne : i ≠ k + 1 := fun he => hk (he ▸ hn)
      exact ih h (by omega)

/-- **The owner of a name** is the innermost scope that defines it. -/
theorem owner?_eq_some_iff :
    s.owner? n k = some j ↔ IsGreatest {i | i ≤ k ∧ n ∈ s.definedAt i} j := by
  constructor
  · intro h
    exact ⟨owner?_eq_some h, fun i hi => le_of_owner?_eq_some h hi.1 hi.2⟩
  · intro h
    obtain ⟨i, hi⟩ := Option.isSome_iff_exists.1 (isSome_owner? h.1.1 h.1.2)
    have hgreatest : IsGreatest {i | i ≤ k ∧ n ∈ s.definedAt i} i :=
      ⟨owner?_eq_some hi, fun l hl => le_of_owner?_eq_some hi hl.1 hl.2⟩
    rw [hi, hgreatest.unique h]

theorem owner?_eq_none_iff : s.owner? n k = none ↔ ∀ i ≤ k, n ∉ s.definedAt i := by
  rw [← Option.not_isSome_iff_eq_none, isSome_owner?_iff]
  constructor
  · intro h i hi hn
    exact h ⟨i, by omega, hn⟩
  · rintro h ⟨i, hi, hn⟩
    exact h i (by omega) hn

/-- **What the scopes answer is what their history says.**  After any history of requests, granted
or refused, the two stacks are in step and the global scope is open; a request that is refused
changes nothing, and closing is refused exactly if the global scope alone is left.  The owner of a
name at a depth is the innermost scope, no deeper, in which the name was defined since that scope
was opened, and the name is visible exactly if there is one.  The names used in a scope are those
that were used there since it was opened. -/
theorem answers_after_history (calls : List Call) :
    let s := initial.afterAll calls
    (s.defined.length = s.used.length ∧ 1 ≤ s.defined.length) ∧
    (∀ (c : Call) (f : Failure), (c.perform s).result = .error f → (c.perform s).scopes = s) ∧
    ((Call.pop.perform s).result = .error .globalScope ↔ s.defined.length = 1) ∧
    (∀ (n : String) (d : Nat), d < s.defined.length →
      ∃ owner : Option Nat,
        ((Call.find n (.int d)).perform s).result = .ok (.owner owner) ∧
        ((Call.visible n (.int d)).perform s).result = .ok (.flag owner.isSome) ∧
        (∀ k, owner = some k ↔
          IsGreatest {k | k ≤ d ∧ MadeSince calls k (Call.Defines n k)} k) ∧
        (owner = none ↔ ∀ k ≤ d, ¬ MadeSince calls k (Call.Defines n k))) ∧
    ∀ (n : String) (k : Nat), k < s.defined.length →
      (n ∈ s.usedAt k ↔ MadeSince calls k (Call.Uses n k)) := by
  intro s
  have h : s.Balanced := balanced_initial.afterAll calls
  refine ⟨⟨h.inStep, h.global⟩, fun c f hf => h.perform_of_error hf, h.pop_eq_error_iff,
    fun n d hd => ⟨s.owner? n d, ?_, ?_, fun k => ?_, ?_⟩,
    fun n k _ => (view_usedAt k n).mem_iff calls⟩
  · have hlevel : s.level d = .ok d := h.level_eq_ok ⟨Int.natCast_nonneg d, by omega⟩
    simp [Call.perform, Outcome.query, depthOf, bind, Except.bind, find, hlevel, Except.map]
  · have hlevel : s.level d = .ok d := h.level_eq_ok ⟨Int.natCast_nonneg d, by omega⟩
    simp [Call.perform, Outcome.query, depthOf, bind, Except.bind, visible, find, hlevel,
      Except.map]
  · simp only [owner?_eq_some_iff, ← (view_definedAt _ n).mem_iff calls, s]
  · simp only [owner?_eq_none_iff, ← (view_definedAt _ n).mem_iff calls, s]

/-- A name is defined in a scope that is closed again, and then used in another one at the same
depth; defining it at a depth that is no number is refused. -/
theorem answers_after_history_reopened :
    let calls : List Call := [.push, .define "x" (.int 1) true, .pop, .push, .use "x" (.int 1),
      .define "x" (.bool true) true]
    let s := initial.afterAll calls
    1 < s.defined.length ∧ ((Call.find "x" (.int 1)).perform s).result = .ok (.owner none) ∧
      (∀ k ≤ 1, ¬ MadeSince calls k (Call.Defines "x" k)) ∧
      MadeSince calls 1 (Call.Uses "x" 1) := by
  intro calls s
  have hopen : 1 < s.defined.length := by decide
  have hanswer : ((Call.find "x" (.int 1)).perform s).result = .ok (.owner none) := rfl
  obtain ⟨-, -, -, howner, hused⟩ := answers_after_history calls
  obtain ⟨owner, hfind, -, -, hnone⟩ := howner "x" 1 hopen
  have hno : owner = none := Answer.owner.inj (Except.ok.inj (hfind.symm.trans hanswer))
  exact ⟨hopen, hanswer, hnone.1 hno, (hused "x" 1 hopen).1 (by decide)⟩

end DefUse.Scopes
