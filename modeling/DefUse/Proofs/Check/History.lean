import DefUse.Scope.Call
import DefUse.Proofs.Check.Frame
import DefUse.Proofs.Check.Marks

/-!
# Proofs/Check/History — the findings of a session are those its history reports

A history is a list of requests, granted or refused.  The scopes alone decide what each of them
marks down (`Scopes.marks`), and the findings of a session after a history are what these marks
report: `findings_afterAll` goes through the history one request at a time, each of them amending
the findings as `Mark.reports_concat` says it should.

A walk is such a history too.  `Step.callsAll` lists the requests that steps make, and
`alike_performAll` says that making them has the effect of the walk.
-/

namespace DefUse

open Scopes (Call target depthOf targetOf)

/-! ## The marks of a history -/

namespace Scopes

variable {s : Scopes}

/-- **The mark that a request makes.**  A refused request makes none. -/
def Call.mark? (s : Scopes) : Call → Option Mark
  | .use n depth =>
    match depthOf depth with
    | .ok d => if s.IsOpen d ∧ ¬ s.Sees n d then some (.undefinedUse n) else none
    | .error _ => none
  | .declare n depth isLocal =>
    match targetOf depth isLocal with
    | .ok d => if s.IsOpen d then some (if s.Sees n d then .redefinition n else .fresh n) else none
    | .error _ => none
  | .push | .pop | .define _ _ _ | .visible _ _ | .find _ _ | .members _ _ | .contents _ => none

/-- **The marks of a history**, each made by the scopes as they are then. -/
def marks (s : Scopes) : List Call → List Mark
  | [] => []
  | c :: rest => (c.mark? s).toList ++ (c.perform s).scopes.marks rest

/-- A depth that is a number is taken as it is. -/
theorem targetOf_int (d : Int) (isLocal : Bool) :
    targetOf (.int d) isLocal = .ok (target d isLocal) := by
  cases isLocal <;> rfl

/-! What a request does to balanced scopes. -/

/-- Popping takes the innermost scope, unless it is the global one. -/
theorem Balanced.scopes_pop (h : s.Balanced) :
    (Call.pop.perform s).scopes = if 1 < s.defined.length then s.dropInnermost else s := by
  by_cases hlt : 1 < s.defined.length
  · rw [if_pos hlt, Call.perform, h.pop_eq hlt]
  · rw [if_neg hlt, Call.perform, pop_of_length_le (by omega)]

/-- Defining adds the name at an open depth and does nothing elsewhere. -/
theorem Balanced.scopes_define (h : s.Balanced) (n : String) (depth : Value) (isLocal : Bool) :
    ((Call.define n depth isLocal).perform s).scopes =
      match targetOf depth isLocal with
      | .ok d => if s.IsOpen d then s.addDefined d.toNat n else s
      | .error _ => s := by
  rw [Call.perform]
  cases targetOf depth isLocal with
  | error f => rfl
  | ok d =>
    by_cases hd : s.IsOpen d
    · have hdef : s.define n d true = .ok (d.toNat, s.addDefined d.toNat n) :=
        define_eq_ok_iff.2 ⟨h.level_eq_ok hd, rfl⟩
      simp [bind, Except.bind, hdef, hd]
    · obtain ⟨f, hf⟩ := exists_level_eq_error hd
      simp [bind, Except.bind, define, target, hf, Except.map, Outcome.query, hd]

/-- Using notes the name at an open depth and does nothing elsewhere. -/
theorem Balanced.scopes_use (h : s.Balanced) (n : String) (depth : Value) :
    ((Call.use n depth).perform s).scopes =
      match depthOf depth with
      | .ok d => if s.IsOpen d then s.addUsed d.toNat n else s
      | .error _ => s := by
  rw [Call.perform]
  cases depthOf depth with
  | error f => rfl
  | ok d =>
    by_cases hd : s.IsOpen d
    · have huse : s.use n d = .ok (_, s.addUsed d.toNat n) :=
        use_eq_ok_iff.2 ⟨_, h.level_eq_ok hd, rfl, rfl⟩
      simp [bind, Except.bind, huse, Except.map, hd]
    · obtain ⟨f, hf⟩ := exists_level_eq_error hd
      simp [bind, Except.bind, use, hf, Except.map, Outcome.query, hd]

/-- Scopes stay in step whatever is asked of them. -/
theorem Balanced.perform (h : s.Balanced) (c : Call) : (c.perform s).scopes.Balanced := by
  cases c with
  | push => exact h.push
  | pop =>
    rw [h.scopes_pop]
    split
    · exact ⟨by simp [h.inStep], by simp; omega⟩
    · exact h
  | define n depth isLocal =>
    rw [h.scopes_define]
    split
    · split
      · exact h.addDefined
      · exact h
    · exact h
  | use n depth =>
    rw [h.scopes_use]
    split
    · split
      · exact h.addUsed
      · exact h
    · exact h
  | _ => exact h

end Scopes

/-! ## Requests to a session -/

namespace Session

variable {s t : Session} {n : String} {d : Int} {isLocal : Bool}

/-- **The session after a request**, granted or refused.  Queries change nothing. -/
def after (s : Session) : Call → Session
  | .push => s.openScope
  | .pop => s.closeScope.2
  | .define n depth isLocal =>
    match targetOf depth isLocal with
    | .ok d => (s.define n d true).2
    | .error _ => s
  | .use n depth =>
    match depthOf depth with
    | .ok d => (s.use n d).2
    | .error _ => s
  | .declare n depth isLocal =>
    match targetOf depth isLocal with
    | .ok d => (s.declare n d true).2
    | .error _ => s
  | .visible _ _ | .find _ _ | .members _ _ | .contents _ => s

/-- The session after a history. -/
def afterAll (s : Session) (calls : List Call) : Session := calls.foldl after s

/-- **A session makes of its scopes what the scopes make of a request.** -/
theorem scopes_after (h : s.scopes.Balanced) (c : Call) :
    (s.after c).scopes = (c.perform s.scopes).scopes := by
  cases c with
  | push => rfl
  | pop => rw [after, scopes_closeScope h, h.scopes_pop]
  | define n depth isLocal =>
    rw [after, h.scopes_define]
    split
    · exact scopes_define h
    · rfl
  | use n depth =>
    rw [after, h.scopes_use]
    split
    · exact scopes_use h
    · rfl
  | declare n depth isLocal =>
    rw [after]
    split
    · exact scopes_declare
    · rfl
  | _ => rfl

theorem afterAll_singleton (s : Session) (c : Call) : s.afterAll [c] = s.after c := rfl

/-- Calls in a row are performed in a row. -/
theorem afterAll_append (s : Session) (calls rest : List Call) :
    s.afterAll (calls ++ rest) = (s.afterAll calls).afterAll rest := List.foldl_append

/-! ## Findings -/

/-- A redefinition amends the findings as its mark does. -/
theorem findings_warn_redefinition :
    (s.warn ⟨.redefinition, n⟩).findings = (Mark.redefinition n).amend s.findings := by
  simp [warn, Mark.amend]

/-- So does an undefined use. -/
theorem findings_warn_undefinedUse :
    (s.warn ⟨.undefinedUse, n⟩).findings = (Mark.undefinedUse n).amend s.findings := by
  rw [warn, Mark.amend]
  split <;> simp_all

/-- Retracting amends them as the mark of a fresh name does. -/
theorem findings_retract : (s.retract n).findings = (Mark.fresh n).amend s.findings := by
  simp only [retract, Mark.amend]
  split
  · rfl
  · rename_i hn
    refine (List.filter_eq_self.2 fun f hf => ?_).symm
    exact decide_eq_true fun he : f = _ => hn (he ▸ hf)

theorem findings_define : (s.define n d isLocal).2.findings = s.findings := by
  unfold define
  split <;> rfl

theorem findings_closeScope : s.closeScope.2.findings = s.findings := by
  unfold closeScope
  split <;> rfl

/-- A declaration amends them by one mark or the other. -/
theorem findings_declare (h : s.scopes.Balanced) :
    (s.declare n d true).2.findings =
      if s.scopes.IsOpen d then
        (if s.scopes.Sees n d then Mark.redefinition n else .fresh n).amend s.findings
      else s.findings := by
  split
  · rename_i hd
    have hopen : s.scopes.IsOpen (target d true) := hd
    rw [declare_of_isOpen h hopen]
    change (if s.scopes.Sees n d then _ else _ : Session).findings = _
    split
    · exact findings_warn_redefinition
    · exact findings_retract
  · rename_i hd
    have hclosed : ¬ s.scopes.IsOpen (target d true) := hd
    obtain ⟨f, hf⟩ := declare_of_not_isOpen (n := n) hclosed
    rw [hf]

/-- A use does so only if the name cannot be seen. -/
theorem findings_use (h : s.scopes.Balanced) :
    (s.use n d).2.findings =
      if s.scopes.IsOpen d ∧ ¬ s.scopes.Sees n d then (Mark.undefinedUse n).amend s.findings
      else s.findings := by
  by_cases hd : s.scopes.IsOpen d
  · rw [use_of_isOpen h hd]
    by_cases hn : s.scopes.Sees n d
    · simp [hn]
    · simp [hn, hd, findings_warn_undefinedUse]
  · obtain ⟨f, hf⟩ := use_of_not_isOpen (n := n) hd
    simp [hf, hd]

/-- **A request amends the findings by its mark**, and leaves them alone if it makes none. -/
theorem findings_after (h : s.scopes.Balanced) (c : Call) :
    (s.after c).findings = (c.mark? s.scopes).elim s.findings (Mark.amend s.findings) := by
  cases c with
  | pop => exact findings_closeScope
  | define n depth isLocal =>
    rw [after]
    split
    · exact findings_define
    · rfl
  | use n depth =>
    rw [after, Call.mark?]
    split
    · rw [findings_use h]
      split <;> rfl
    · rfl
  | declare n depth isLocal =>
    rw [after, Call.mark?]
    split
    · rw [findings_declare h]
      split <;> rfl
    · rfl
  | _ => rfl

/-- **The findings after a history are what its marks report.** -/
theorem findings_afterAll (calls : List Call) :
    ∀ {s : Session} {marks : List Mark}, s.scopes.Balanced → s.findings = Mark.reports marks →
      (s.afterAll calls).findings = Mark.reports (marks ++ s.scopes.marks calls) := by
  induction calls with
  | nil =>
    intro s marks _ hs
    rw [Scopes.marks, List.append_nil]
    exact hs
  | cons c rest ih =>
    intro s marks h hs
    -- the marks so far go along, since a later one may take a report of theirs back
    have hscopes := scopes_after h c
    have hfindings : (s.after c).findings = Mark.reports (marks ++ (c.mark? s.scopes).toList) := by
      rw [findings_after h c, Mark.reports_append_toList, hs]
    have hrest := ih (hscopes ▸ h.perform c) hfindings
    rw [hscopes, List.append_assoc] at hrest
    exact hrest

end Session

/-! ## The requests of a walk -/

/-- The requests made after an operation, none if it failed. -/
def Outcome.callsThen (o : Outcome) (next : Session → List Call) : List Call :=
  match o with
  | (none, s) => next s
  | (some _, _) => []

namespace Session

/-- The request an assignment makes, once it has found the owner of the name. -/
def assignCalls (s : Session) (n : String) (d : Int) : List Call :=
  match s.scopes.find n d with
  | .error _ => []
  | .ok (some owner) => [.define n (.int owner) true]
  | .ok none => [.define n (.int 0) false]

/-- The requests that define names one after the other. -/
def defineCalls (d : Int) : List String → Session → List Call
  | [], _ => []
  | n :: rest, s =>
    .define n (.int d) true :: Outcome.callsThen (s.define n d true) fun s => defineCalls d rest s

/-- The requests that define the members a name gains from a call. -/
def deriveCalls (s : Session) (name callee : String) (d : Int) : List Call :=
  match s.derivedMembers name callee d with
  | .error _ => []
  | .ok members => defineCalls d members.eraseDups s

end Session

mutual

/-- **The requests that a step makes** at a depth. -/
def Step.calls (d : Int) : Step → Session → List Call
  | .enter _, _ | .ignore _, _ | .stop _, _ => []
  | .declare n isLocal, _ => [.declare n (.int d) isLocal]
  | .define n isLocal, _ => [.define n (.int d) isLocal]
  | .use n, _ => [.use n (.int d)]
  | .assign n, s => s.assignCalls n d
  | .derive n callee, s => s.deriveCalls n callee d
  | .function body, s =>
    let inner := s.openScope.scopes.depth
    .push :: (if (inner : Int) = d + 1 then Step.callsAll inner body s.openScope else []) ++ [.pop]

/-- The requests that steps make, up to the first failure. -/
def Step.callsAll (d : Int) : List Step → Session → List Call
  | [], _ => []
  | step :: rest, s =>
    step.calls d s ++ Outcome.callsThen (step.perform d s) fun s => Step.callsAll d rest s

end

/-- **The requests that a walk makes.** -/
def Session.walkCalls (s : Session) (d : Int) : List Call :=
  if s.walked then [] else Step.callsAll d (blockSteps s.tree) { s with walked := true }

/-! ## A walk has the effect of its requests

The trace tells a walk from the requests it makes, and nothing else does: sessions are **alike** if
they have the same settings, scopes and findings. -/

namespace Session

/-- **Sessions that differ in their trace at most.** -/
structure Alike (s t : Session) : Prop where
  settings_eq : s.settings = t.settings
  scopes_eq : s.scopes = t.scopes
  findings_eq : s.findings = t.findings

namespace Alike

variable {s t : Session}

theorem refl (s : Session) : Alike s s := ⟨rfl, rfl, rfl⟩

/-- An event makes no difference. -/
theorem note_left (h : Alike s t) (e : Event) : Alike (s.note e) t :=
  ⟨h.settings_eq, h.scopes_eq, h.findings_eq⟩

theorem warn (h : Alike s t) (f : Finding) : Alike (s.warn f) (t.warn f) := by
  unfold Session.warn
  rw [h.findings_eq]
  split
  · exact h
  · exact ⟨h.settings_eq, h.scopes_eq, rfl⟩

theorem retract (h : Alike s t) (n : String) : Alike (s.retract n) (t.retract n) := by
  simp only [Session.retract, h.findings_eq]
  split
  · exact ⟨h.settings_eq, h.scopes_eq, rfl⟩
  · exact h

/-- A declaration at any depth is like one at the depth that it is for. -/
theorem declare (h : Alike s t) (n : String) (d : Int) (isLocal : Bool) :
    Alike (s.declare n d isLocal).2 (t.declare n (target d isLocal) true).2 := by
  have hdeclares : t.scopes.declares n (target d isLocal) true =
      t.scopes.declares n d isLocal := rfl
  unfold Session.declare
  rw [h.scopes_eq, hdeclares]
  split
  · exact h
  · exact h.warn ⟨.redefinition, n⟩
  · exact h.retract n

/-- So is a definition. -/
theorem define (h : Alike s t) (n : String) (d : Int) (isLocal : Bool) :
    Alike (s.define n d isLocal).2 (t.define n (target d isLocal) true).2 := by
  have hdefine : t.scopes.define n (target d isLocal) true = t.scopes.define n d isLocal := rfl
  unfold Session.define
  rw [h.scopes_eq, hdefine]
  split
  · exact h
  · exact ⟨h.settings_eq, rfl, h.findings_eq⟩

theorem use (h : Alike s t) (n : String) (d : Int) : Alike (s.use n d).2 (t.use n d).2 := by
  unfold Session.use
  rw [h.scopes_eq]
  split
  · exact h
  · rename_i visible scopes _
    have hused : Alike { s.note (.used n d visible) with scopes }
        { t.note (.used n d visible) with scopes } := ⟨h.settings_eq, rfl, h.findings_eq⟩
    dsimp only
    split
    · exact hused
    · exact hused.warn _

theorem openScope (h : Alike s t) : Alike s.openScope t.openScope :=
  ⟨h.settings_eq, congrArg Scopes.push h.scopes_eq, h.findings_eq⟩

theorem closeScope (h : Alike s t) : Alike s.closeScope.2 t.closeScope.2 := by
  unfold Session.closeScope
  rw [h.scopes_eq]
  split
  · exact h
  · exact ⟨h.settings_eq, rfl, h.findings_eq⟩

/-- Leaving a function closes its scope, whether it is looked at or not. -/
theorem left (h : Alike s t) (hs : s.scopes.Balanced) (hlt : 1 < s.scopes.defined.length)
    (inner : Nat) : Alike (s.left inner) t.closeScope.2 := by
  have hback : Alike (s.lookedBack inner) t := by
    unfold Session.lookedBack
    split
    · exact h.note_left _
    · exact h
  rw [closeScope_of_lt (h.scopes_eq ▸ hs) (h.scopes_eq ▸ hlt)]
  exact ⟨hback.settings_eq, congrArg Scopes.dropInnermost h.scopes_eq, hback.findings_eq⟩

/-- What comes next is done from sessions that are alike. -/
theorem andThen {o : Outcome} {next : Session → Outcome} {calls : Session → List Call}
    (h : Alike o.2 t)
    (hnext : ∀ u, o = (none, u) → Alike u t → Alike (next u).2 (t.afterAll (calls u))) :
    Alike (o.andThen next).2 (t.afterAll (o.callsThen calls)) := by
  obtain ⟨_ | f, u⟩ := o
  · exact hnext u rfl h
  · exact h

/-- An assignment is like the calls that it makes. -/
theorem assign (h : Alike s t) (n : String) (d : Int) :
    Alike (s.assign n d).2 (t.afterAll (s.assignCalls n d)) := by
  rw [Session.assign, assignCalls]
  rcases s.scopes.find n d with f | _ | owner
  · exact h
  · exact h.define n 0 false
  · exact h.define n owner true

/-- So are definitions in a row. -/
theorem defineAll (d : Int) (names : List String) :
    ∀ {s t : Session}, Alike s t →
      Alike (s.defineAll d names).2 (t.afterAll (defineCalls d names s)) := by
  induction names with
  | nil => exact fun h => h
  | cons n rest ih => exact fun h => (h.define n d true).andThen fun u _ hu => ih hu

/-- So is deriving members. -/
theorem derive (h : Alike s t) (name callee : String) (d : Int) :
    Alike (s.derive name callee d).2 (t.afterAll (s.deriveCalls name callee d)) := by
  rw [Session.derive, deriveCalls]
  rcases s.derivedMembers name callee d with f | members
  · exact h
  · exact defineAll d _ h

end Alike

end Session

namespace Step

open Session (Alike)

mutual

/-- **A step has the effect of the requests it makes.** -/
theorem alike_perform (d : Int) :
    ∀ (step : Step) {s t : Session}, s.scopes.Balanced → Alike s t →
      Alike (step.perform d s).2 (t.afterAll (step.calls d s))
  | .enter kind, _, _, _, h => h.note_left (.entered kind d)
  | .ignore kind, _, _, _, h => h.note_left (.ignored kind)
  | .stop _, _, _, _, h => h
  | .declare n isLocal, _, t, _, h => by
    rw [calls, Session.afterAll_singleton, Session.after, Scopes.targetOf_int]
    exact h.declare n d isLocal
  | .define n isLocal, _, t, _, h => by
    rw [calls, Session.afterAll_singleton, Session.after, Scopes.targetOf_int]
    exact h.define n d isLocal
  | .use n, _, _, _, h => h.use n d
  | .assign n, _, _, _, h => h.assign n d
  | .derive n callee, _, _, _, h => h.derive n callee d
  | .function body, s, t, hs, h => by
    have hframe := frame_performAll s.scopes.defined.length body s.openScope hs.push
    have hbody := alike_performAll s.scopes.defined.length body hs.push h.openScope
    rw [perform, calls, Session.afterAll_append]
    simp only [Session.scopes_openScope, Scopes.depth_push]
    split
    · rw [leave_of_frame hs hframe]
      exact hbody.left (hframe.balanced hs.push) (lt_length_of_frame hs hframe) _
    · exact h.openScope.closeScope

/-- **Steps have the effect of the requests they make.** -/
theorem alike_performAll (d : Int) :
    ∀ (steps : List Step) {s t : Session}, s.scopes.Balanced → Alike s t →
      Alike (performAll d steps s).2 (t.afterAll (callsAll d steps s))
  | [], _, _, _, h => h
  | step :: rest, s, t, hs, h => by
    have hframe := frame_perform d step s hs
    rw [performAll, callsAll, Session.afterAll_append]
    refine (alike_perform d step hs h).andThen fun u hu halike => ?_
    rw [hu] at hframe
    exact alike_performAll d rest (hframe.balanced hs) halike

end

end Step

namespace Session

/-- **A walk is like its calls.** -/
theorem alike_walk {s : Session} (h : s.scopes.Balanced) (d : Int) :
    Alike (s.walk d).2 (s.afterAll (s.walkCalls d)) := by
  rw [walk, walkCalls]
  split
  · exact Alike.refl s
  · exact Step.alike_performAll d _ h ⟨rfl, rfl, rfl⟩

/-- **The findings of a session are those its history reports.**  From the start of a session on,
every history of requests, granted or refused, leaves one redefinition for each declaration of a
name that was visible, and one undefined use for each name that is used undefined after its last
fresh declaration, at the first such use; and so does every walk, whose history is that of its
requests. -/
theorem findings_eq_reports (settings : Settings) (tree : Value) :
    (∀ calls : List Call,
      ((start settings tree).afterAll calls).findings =
          Mark.reports ((start settings tree).scopes.marks calls) ∧
        ((start settings tree).afterAll calls).findings.Pairwise fun f g =>
          f.kind = .undefinedUse → g.kind = .undefinedUse → f.name ≠ g.name) ∧
    ∀ d : Int,
      Alike ((start settings tree).walk d).2
          ((start settings tree).afterAll ((start settings tree).walkCalls d)) ∧
        ((start settings tree).walk d).2.findings = Mark.reports
          ((start settings tree).scopes.marks ((start settings tree).walkCalls d)) := by
  have hstart := fresh_start settings tree
  have hnone : (start settings tree).findings = Mark.reports [] := hstart.findings_eq
  have key : ∀ calls, ((start settings tree).afterAll calls).findings =
      Mark.reports ((start settings tree).scopes.marks calls) := fun calls =>
    findings_afterAll calls hstart.balanced hnone
  refine ⟨fun calls => ⟨key calls, ?_⟩, fun d => ⟨alike_walk hstart.balanced d, ?_⟩⟩
  · rw [key calls]
    exact Mark.pairwise_reports _
  · exact (alike_walk hstart.balanced d).findings_eq.trans (key _)

end Session

end DefUse
