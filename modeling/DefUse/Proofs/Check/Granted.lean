import DefUse.Proofs.Check.Globals
import DefUse.Proofs.Scope.Lifetimes

/-!
# Proofs/Check/Granted — what a walk asks for is granted, and a name in the global scope stays

A walk makes its requests at the depth of the innermost scope, so every one of them is granted
(`Step.grantsAll_callsAll`).

A name in the global scope stays there: no request takes a definition of that scope away.  So it is
visible wherever a scope is open, no use of it is ever reported, and every granted declaration of it
is reported as a redefinition (`Session.count_afterAll`), where it is made
(`Session.findings_afterAll_of_declared`).
-/

namespace DefUse

open Scopes (Call target)
open Step (Aligned)

/-! ## A walk has its requests granted -/

namespace Scopes

variable {s : Scopes} {n : String} {d : Int} {c : Call} {calls rest : List Call}

/-- **Every request of a history is granted**, each by the scopes as they are then. -/
inductive GrantsAll : Scopes → List Call → Prop
  | nil {s : Scopes} : GrantsAll s []
  | cons {s : Scopes} {c : Call} {rest : List Call} (h : c.Granted s)
      (hrest : GrantsAll (c.perform s).scopes rest) : GrantsAll s (c :: rest)

theorem grantsAll_singleton (h : c.Granted s) : s.GrantsAll [c] := .cons h .nil

theorem grantsAll_cons :
    s.GrantsAll (c :: calls) ↔ c.Granted s ∧ (c.perform s).scopes.GrantsAll calls := by
  constructor
  · intro h
    cases h with
    | cons h hrest => exact ⟨h, hrest⟩
  · exact fun h => .cons h.1 h.2

theorem grantsAll_append :
    s.GrantsAll (calls ++ rest) ↔ s.GrantsAll calls ∧ (s.afterAll calls).GrantsAll rest := by
  induction calls generalizing s with
  | nil => exact (and_iff_right .nil).symm
  | cons c calls ih =>
    rw [List.cons_append, grantsAll_cons, grantsAll_cons, ih, and_assoc]
    exact Iff.rfl

theorem Balanced.granted_define {isLocal : Bool} (h : s.Balanced)
    (hd : s.IsOpen (target d isLocal)) : (Call.define n (.int d) isLocal).Granted s :=
  (h.granted_iff rfl).2 ⟨_, targetOf_int d isLocal, hd⟩

theorem Balanced.granted_declare {isLocal : Bool} (h : s.Balanced)
    (hd : s.IsOpen (target d isLocal)) : (Call.declare n (.int d) isLocal).Granted s :=
  (h.granted_iff rfl).2 ⟨_, targetOf_int d isLocal, hd⟩

theorem Balanced.granted_use (h : s.Balanced) (hd : s.IsOpen d) : (Call.use n (.int d)).Granted s :=
  (h.granted_iff rfl).2 ⟨d, rfl, hd⟩

theorem Balanced.granted_pop (h : s.Balanced) (hlt : 1 < s.defined.length) : Call.pop.Granted s :=
  ⟨.done, by rw [Call.perform, h.pop_eq hlt]; rfl⟩

end Scopes

namespace Session

variable {s : Session} {n : String} {d : Int}

/-- A session makes of its scopes what the scopes make of a history. -/
theorem scopes_afterAll (calls : List Call) :
    ∀ {s : Session}, s.scopes.Balanced → (s.afterAll calls).scopes = s.scopes.afterAll calls := by
  induction calls with
  | nil => exact fun _ => rfl
  | cons c calls ih =>
    intro s h
    have hscopes := scopes_after h c
    have hrest := ih (hscopes ▸ h.perform c)
    rw [hscopes] at hrest
    exact hrest

theorem grantsAll_assignCalls (h : Aligned d s) (n : String) :
    s.scopes.GrantsAll (s.assignCalls n d) := by
  unfold assignCalls
  cases hfind : s.scopes.find n d with
  | error f => exact .nil
  | ok owner =>
    cases owner with
    | none => exact Scopes.grantsAll_singleton (h.balanced.granted_define h.balanced.isOpen_zero)
    | some k =>
      have hopen : s.scopes.IsOpen k := by
        obtain ⟨l, hl, ho⟩ := Scopes.find_eq_ok_iff.1 hfind
        have hle := (Scopes.owner?_eq_some ho).1
        obtain ⟨rfl, hlt, -⟩ := Scopes.level_eq_ok_iff.1 hl
        exact ⟨Int.natCast_nonneg k, by omega⟩
      exact Scopes.grantsAll_singleton (h.balanced.granted_define hopen)

theorem grantsAll_defineCalls (names : List String) :
    ∀ {s : Session}, Aligned d s → s.scopes.GrantsAll (defineCalls d names s) := by
  induction names with
  | nil => exact fun _ => .nil
  | cons n rest ih =>
    intro s h
    have hopen : s.scopes.IsOpen (target d true) := h.isOpen
    have hframe : Scopes.Frame d s.scopes (s.define n d true).2.scopes := frame_define h.balanced
    have hscopes := scopes_after h.balanced (.define n (.int d) true)
    change (s.define n d true).2.scopes = _ at hscopes
    refine .cons (h.balanced.granted_define hopen) ?_
    rw [← hscopes]
    rw [define_of_isOpen h.balanced hopen] at hframe ⊢
    exact ih (h.of_frame hframe)

theorem grantsAll_deriveCalls (h : Aligned d s) (name callee : String) :
    s.scopes.GrantsAll (s.deriveCalls name callee d) := by
  unfold deriveCalls
  split
  · exact .nil
  · exact grantsAll_defineCalls _ h

end Session

namespace Step

open Session (Alike)

/-- The scopes after a step are those its requests make. -/
theorem scopes_perform (d : Int) (step : Step) {s : Session} (h : s.scopes.Balanced) :
    (step.perform d s).2.scopes = s.scopes.afterAll (step.calls d s) :=
  (alike_perform d step h (Alike.refl s)).scopes_eq.trans (Session.scopes_afterAll _ h)

theorem scopes_performAll (d : Int) (steps : List Step) {s : Session} (h : s.scopes.Balanced) :
    (performAll d steps s).2.scopes = s.scopes.afterAll (callsAll d steps s) :=
  (alike_performAll d steps h (Alike.refl s)).scopes_eq.trans (Session.scopes_afterAll _ h)

/-- The requests of a function: its scope is opened, its body made, and the scope closed. -/
theorem calls_function {d : Int} {body : List Step} {s : Session} (h : Aligned d s) :
    (Step.function body).calls d s =
      .push :: callsAll s.scopes.defined.length body s.openScope ++ [.pop] := by
  have hinner : (s.scopes.defined.length : Int) = d + 1 := by
    have hlength := h.balanced.depth_add_one
    have hdepth := h.depth_eq
    omega
  rw [calls, Session.scopes_openScope, Scopes.depth_push, if_pos hinner]

mutual

/-- A step of an aligned walk has its requests granted. -/
theorem grantsAll_calls (d : Int) :
    ∀ (step : Step) {s : Session}, Aligned d s → s.scopes.GrantsAll (step.calls d s)
  | .enter _, _, _ | .ignore _, _, _ | .stop _, _, _ => .nil
  | .declare _ isLocal, _, h =>
    Scopes.grantsAll_singleton (h.balanced.granted_declare (h.isOpen_target isLocal))
  | .define _ isLocal, _, h =>
    Scopes.grantsAll_singleton (h.balanced.granted_define (h.isOpen_target isLocal))
  | .use _, _, h => Scopes.grantsAll_singleton (h.balanced.granted_use h.isOpen)
  | .assign n, _, h => Session.grantsAll_assignCalls h n
  | .derive n callee, _, h => Session.grantsAll_deriveCalls h n callee
  | .function body, s, h => by
    -- the scope opened for the body is still open after it, so there is one to close
    have hframe := frame_performAll s.scopes.defined.length body s.openScope h.balanced.push
    have hlt := lt_length_of_frame h.balanced hframe
    have hscopes := scopes_performAll s.scopes.defined.length body (s := s.openScope)
      h.balanced.push
    rw [calls_function h, List.cons_append]
    rw [hscopes] at hlt
    refine .cons ⟨_, rfl⟩ (Scopes.grantsAll_append.2 ⟨?_, ?_⟩)
    · exact grantsAll_callsAll _ body h.openScope
    · exact Scopes.grantsAll_singleton ((h.balanced.push.afterAll _).granted_pop hlt)

/-- **An aligned walk has every request granted.** -/
theorem grantsAll_callsAll (d : Int) :
    ∀ (steps : List Step) {s : Session}, Aligned d s → s.scopes.GrantsAll (callsAll d steps s)
  | [], _, _ => .nil
  | step :: rest, s, h => by
    rw [callsAll, Scopes.grantsAll_append, ← scopes_perform d step h.balanced]
    refine ⟨grantsAll_calls d step h, ?_⟩
    have hframe := frame_perform d step s h.balanced
    rcases hstep : step.perform d s with ⟨_ | f, t⟩
    · rw [hstep] at hframe
      exact grantsAll_callsAll d rest (h.of_frame hframe)
    · exact .nil

end

end Step

/-! ## Names in the global scope -/

namespace Scopes

variable {s : Scopes} {n : String} {d : Int} {c : Call}

/-- The name a request declares, if it declares one. -/
def Call.declared? : Call → Option String
  | .declare n _ _ => some n
  | _ => none

/-- **No request takes a definition of the global scope away.** -/
theorem mem_global_perform (h : s.Balanced) (hn : n ∈ s.definedAt 0) (c : Call) :
    n ∈ (c.perform s).scopes.definedAt 0 := by
  cases c with
  | push => exact definedAt_push.symm ▸ hn
  | pop =>
    rw [h.scopes_pop]
    split
    · rw [definedAt_dropInnermost ‹_›]
      exact hn
    · exact hn
  | define m depth isLocal =>
    rw [h.scopes_define]
    split
    · split
      · rename_i hd
        exact (mem_definedAt_addDefined hd.toNat_lt).2 (Or.inl hn)
      · exact hn
    · exact hn
  | use m depth =>
    rw [h.scopes_use]
    split
    · split <;> exact hn
    · exact hn
  | _ => exact hn

theorem mem_global_afterAll (h : s.Balanced) (hn : n ∈ s.definedAt 0) (calls : List Call) :
    n ∈ (s.afterAll calls).definedAt 0 := by
  induction calls generalizing s with
  | nil => exact hn
  | cons c calls ih => exact ih (h.perform c) (mem_global_perform h hn c)

/-- A name in the global scope is visible wherever a scope is open. -/
theorem Balanced.visible_of_global (h : s.Balanced) (hn : n ∈ s.definedAt 0) (hd : s.IsOpen d) :
    s.visible n d = .ok true := by
  have hsees : s.Sees n d := ⟨0, hd.1, hn⟩
  rw [h.visible_eq_ok hd, decide_eq_true hsees]

/-- No use of a name in the global scope is undefined. -/
theorem mark?_ne_undefinedUse (hn : n ∈ s.definedAt 0) (c : Call) :
    c.mark? s ≠ some (.undefinedUse n) := by
  intro hm
  cases c with
  | use m depth =>
    rw [Call.mark?] at hm
    split at hm
    · rename_i d _
      split at hm
      · rename_i hunseen
        obtain rfl : m = n := Mark.undefinedUse.inj (Option.some.inj hm)
        exact hunseen.2 ⟨0, hunseen.1.1, hn⟩
      · cases hm
    · cases hm
  | declare m depth isLocal =>
    rw [Call.mark?] at hm
    split at hm
    · split at hm
      · split at hm <;> cases hm
      · cases hm
    · cases hm
  | _ => cases hm

/-- **A request marks a name in the global scope as redefined** exactly if it declares it. -/
theorem mark?_eq_redefinition_iff (h : s.Balanced) (hn : n ∈ s.definedAt 0) (hc : c.Granted s) :
    c.mark? s = some (.redefinition n) ↔ c.declared? = some n := by
  cases c with
  | declare m depth isLocal =>
    obtain ⟨d, hd, hopen⟩ := (h.granted_iff rfl).1 hc
    have hmark : (Call.declare m depth isLocal).mark? s =
        some (if s.Sees m d then .redefinition m else .fresh m) := by
      rw [Call.mark?, hd]
      exact if_pos hopen
    rw [hmark, Call.declared?, Option.some.injEq, Option.some.injEq]
    constructor
    · intro hm
      split at hm
      · exact Mark.redefinition.inj hm
      · cases hm
    · rintro rfl
      exact if_pos ⟨0, hopen.1, hn⟩
  | use m depth =>
    have hmark : (Call.use m depth).mark? s ≠ some (.redefinition n) := by
      rw [Call.mark?]
      split
      · split <;> simp
      · simp
    simp [hmark, Call.declared?]
  | _ => simp [Call.mark?, Call.declared?]

end Scopes

namespace Mark

/-- A mark adds one redefinition of a name, or leaves their number as it is. -/
theorem count_amend (m : Mark) (fs : List Finding) (n : String) :
    (m.amend fs).count ⟨.redefinition, n⟩ =
      fs.count ⟨.redefinition, n⟩ + if m = .redefinition n then 1 else 0 := by
  cases m with
  | redefinition k => simp [amend, List.count_singleton]
  | undefinedUse k =>
    rw [amend]
    split <;> simp
  | fresh k => simp [amend, List.count_filter]

/-- A mark takes back what it does not spare, and adds to the end. -/
theorem exists_amend_eq (m : Mark) (fs : List Finding) :
    ∃ added, m.amend fs = fs.filter m.spares ++ added := by
  cases m with
  | redefinition k =>
    have hall : fs.filter (spares (.redefinition k)) = fs := List.filter_eq_self.2 fun _ _ => rfl
    exact ⟨[⟨.redefinition, k⟩], by rw [hall, amend]⟩
  | undefinedUse k =>
    have hall : fs.filter (spares (.undefinedUse k)) = fs := List.filter_eq_self.2 fun _ _ => rfl
    rw [amend, hall]
    split
    · exact ⟨[], (List.append_nil fs).symm⟩
    · exact ⟨[⟨.undefinedUse, k⟩], rfl⟩
  | fresh k => exact ⟨[], (List.append_nil _).symm⟩

end Mark

namespace Session

variable {s : Session} {n : String} {d : Int} {c : Call}

theorem balanced_after (h : s.scopes.Balanced) (c : Call) : (s.after c).scopes.Balanced :=
  scopes_after h c ▸ h.perform c

theorem mem_global_after (h : s.scopes.Balanced) (hn : n ∈ s.scopes.definedAt 0) (c : Call) :
    n ∈ (s.after c).scopes.definedAt 0 :=
  scopes_after h c ▸ Scopes.mem_global_perform h hn c

theorem count_after (h : s.scopes.Balanced) (hn : n ∈ s.scopes.definedAt 0)
    (hc : c.Granted s.scopes) :
    (s.after c).findings.count ⟨.redefinition, n⟩ =
      s.findings.count ⟨.redefinition, n⟩ + c.declared?.toList.count n := by
  have hmark := Scopes.mark?_eq_redefinition_iff h hn hc
  have hcount : c.declared?.toList.count n = if c.declared? = some n then 1 else 0 := by
    cases c.declared? <;> simp [List.count_singleton]
  rw [findings_after h c, hcount]
  simp only [← hmark]
  cases c.mark? s.scopes with
  | none => simp
  | some m => simpa using Mark.count_amend m s.findings n

/-- **Every granted declaration of a name in the global scope is reported.** -/
theorem count_afterAll (calls : List Call) :
    ∀ {s : Session}, s.scopes.Balanced → n ∈ s.scopes.definedAt 0 → s.scopes.GrantsAll calls →
      (s.afterAll calls).findings.count ⟨.redefinition, n⟩ =
        s.findings.count ⟨.redefinition, n⟩ + (calls.filterMap Call.declared?).count n := by
  induction calls with
  | nil => exact fun _ _ _ => rfl
  | cons c rest ih =>
    intro s h hn hgranted
    obtain ⟨hc, hgranted⟩ := Scopes.grantsAll_cons.1 hgranted
    have hrest := ih (balanced_after h c) (mem_global_after h hn c) (scopes_after h c ▸ hgranted)
    have hsplit : (c :: rest).filterMap Call.declared? =
        c.declared?.toList ++ rest.filterMap Call.declared? := by
      cases hc : c.declared? <;> simp [hc]
    rw [count_after h hn hc, Nat.add_assoc, ← List.count_append, ← hsplit] at hrest
    exact hrest

/-- **No use of a name in the global scope is reported.** -/
theorem undefinedUse_notMem_afterAll (calls : List Call) :
    ∀ {s : Session}, s.scopes.Balanced → n ∈ s.scopes.definedAt 0 →
      ⟨.undefinedUse, n⟩ ∉ s.findings → ⟨.undefinedUse, n⟩ ∉ (s.afterAll calls).findings := by
  induction calls with
  | nil => exact fun _ _ hnot => hnot
  | cons c rest ih =>
    intro s h hn hnot
    refine ih (balanced_after h c) (mem_global_after h hn c) fun hmem => ?_
    rw [findings_after h c] at hmem
    cases hm : c.mark? s.scopes with
    | none =>
      rw [hm] at hmem
      exact hnot hmem
    | some m =>
      rw [hm] at hmem
      rcases Mark.mem_of_mem_amend hmem with hmem | rfl
      · exact hnot hmem
      · exact Scopes.mark?_ne_undefinedUse hn c hm

/-- **Findings keep their order**: what is found later comes after them, and all that is ever taken
back from among them is undefined uses. -/
theorem findings_afterAll_eq (calls : List Call) :
    ∀ {s : Session}, s.scopes.Balanced → ∃ (keep : Finding → Bool) (later : List Finding),
      (∀ m, keep ⟨.redefinition, m⟩ = true) ∧
        (s.afterAll calls).findings = s.findings.filter keep ++ later := by
  induction calls with
  | nil => exact fun _ => ⟨fun _ => true, [], fun _ => rfl, by simp [afterAll]⟩
  | cons c rest ih =>
    intro s h
    obtain ⟨keep, later, hkeep, hrest⟩ := ih (balanced_after h c)
    rw [findings_after h c] at hrest
    cases hm : c.mark? s.scopes with
    | none =>
      rw [hm] at hrest
      exact ⟨keep, later, hkeep, hrest⟩
    | some m =>
      -- what is added now may be taken back later, and goes through the filter as well
      obtain ⟨added, hadded⟩ := m.exists_amend_eq s.findings
      rw [hm, Option.elim_some, hadded, List.filter_append, List.filter_filter,
        List.append_assoc] at hrest
      exact ⟨_, _, fun k => by rw [hkeep, Mark.spares_redefinition]; rfl, hrest⟩

/-- **A declaration of a name in the global scope is reported where it is made**: after what was
found before, of which undefined uses may be taken back, and before all that is found later. -/
theorem findings_afterAll_of_declared {made rest : List Call} (h : s.scopes.Balanced)
    (hn : n ∈ s.scopes.definedAt 0) (hgranted : s.scopes.GrantsAll (made ++ c :: rest))
    (hc : c.declared? = some n) :
    ∃ (keep : Finding → Bool) (later : List Finding), (∀ m, keep ⟨.redefinition, m⟩ = true) ∧
      (s.afterAll (made ++ c :: rest)).findings =
        (s.afterAll made).findings.filter keep ++ ⟨.redefinition, n⟩ :: later := by
  have hscopes := scopes_afterAll made h
  have hmade : (s.afterAll made).scopes.Balanced := hscopes ▸ h.afterAll made
  have hglobal : n ∈ (s.afterAll made).scopes.definedAt 0 :=
    hscopes ▸ Scopes.mem_global_afterAll h hn made
  have hasked : c.Granted (s.scopes.afterAll made) :=
    (Scopes.grantsAll_cons.1 (Scopes.grantsAll_append.1 hgranted).2).1
  have hmark : c.mark? (s.afterAll made).scopes = some (.redefinition n) :=
    (Scopes.mark?_eq_redefinition_iff hmade hglobal
      (hscopes ▸ hasked)).2 hc
  have hdeclared : ((s.afterAll made).after c).findings =
      (s.afterAll made).findings ++ [⟨.redefinition, n⟩] := by
    rw [findings_after hmade c, hmark]
    rfl
  obtain ⟨keep, later, hkeep, hrest⟩ := findings_afterAll_eq rest (balanced_after hmade c)
  refine ⟨keep, later, hkeep, ?_⟩
  rw [hdeclared, List.filter_append, List.filter_cons_of_pos (hkeep n), List.append_assoc] at hrest
  rw [afterAll_append]
  exact hrest

end Session

end DefUse
