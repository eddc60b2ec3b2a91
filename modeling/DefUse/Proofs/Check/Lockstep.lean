import DefUse.Proofs.Check.Alignment
import DefUse.Proofs.Check.Members

/-!
# Proofs/Check/Lockstep — two walks over the same steps

Two aligned walks over the same steps, or over steps that differ in their names alone, stay in step:
neither can fail where the other does not, since only the steps decide that.  So a relation between
their sessions lasts from their start to their end as soon as no single operation breaks it.
`Lockstep` lists what there is to show, once for every operation, and `Lockstep.performAll` draws
the conclusion for whole walks.  A relation that depends on which calls give members to which
handles need only withstand the ones that the steps ask for (`Lockstep.performAll_of_gifts`).

The first relation of this kind is the simplest: having used the same names.  It says that settings
have no part in what a run uses (`verify_independent_of_settings`).
-/

namespace DefUse

namespace Step

variable (ρ : String → String) (φ : Failure → Failure)

mutual

/-- A step with its names and its failure replaced. -/
def map : Step → Step
  | .enter kind => .enter kind
  | .ignore kind => .ignore kind
  | .declare n isLocal => .declare (ρ n) isLocal
  | .define n isLocal => .define (ρ n) isLocal
  | .use n => .use (ρ n)
  | .assign n => .assign (ρ n)
  | .derive n callee => .derive (ρ n) (ρ callee)
  | .function body => .function (mapAll body)
  | .stop f => .stop (φ f)

/-- Steps with their names and their failures replaced. -/
def mapAll : List Step → List Step
  | [] => []
  | step :: rest => step.map :: mapAll rest

end

@[simp] theorem mapAll_nil : mapAll ρ φ [] = [] := by
  rw [mapAll]

@[simp] theorem mapAll_cons (step : Step) (rest : List Step) :
    mapAll ρ φ (step :: rest) = step.map ρ φ :: mapAll ρ φ rest := by
  rw [mapAll]

@[simp] theorem mapAll_append (steps rest : List Step) :
    mapAll ρ φ (steps ++ rest) = mapAll ρ φ steps ++ mapAll ρ φ rest := by
  induction steps with
  | nil => rw [mapAll_nil]; rfl
  | cons step steps ih => rw [List.cons_append, mapAll_cons, mapAll_cons, ih, List.cons_append]

mutual

theorem map_id : ∀ step : Step, map id id step = step
  | .enter _ | .ignore _ | .declare _ _ | .define _ _ | .use _ | .assign _ | .derive _ _
  | .stop _ => by simp only [map, id]
  | .function body => by rw [map, mapAll_id body]

theorem mapAll_id : ∀ steps : List Step, mapAll id id steps = steps
  | [] => by rw [mapAll]
  | step :: rest => by rw [mapAll, map_id step, mapAll_id rest]

end

mutual

theorem stops_map : ∀ step : Step, (map ρ φ step).stops = step.stops.map φ
  | .enter _ | .ignore _ | .declare _ _ | .define _ _ | .use _ | .assign _ | .derive _ _
  | .stop _ => by simp [map, stops]
  | .function body => by rw [map, stops, stops, stopsAll_mapAll body]

/-- The stops of steps are replaced where they stand. -/
theorem stopsAll_mapAll : ∀ steps : List Step, stopsAll (mapAll ρ φ steps) = (stopsAll steps).map φ
  | [] => by rw [mapAll, stopsAll]; rfl
  | step :: rest => by
    rw [mapAll, stopsAll, stopsAll, stops_map step, stopsAll_mapAll rest, List.map_append]

end

mutual

/-- **The handles that a step gives members**, each with the call that gives them, function bodies
included. -/
def gifts : Step → List (String × String)
  | .derive n callee => [(n, callee)]
  | .function body => giftsAll body
  | .enter _ | .ignore _ | .declare _ _ | .define _ _ | .use _ | .assign _ | .stop _ => []

/-- The handles that steps give members, each with the call that gives them. -/
def giftsAll : List Step → List (String × String)
  | [] => []
  | step :: rest => step.gifts ++ giftsAll rest

end

end Step

open Step (Aligned)

/-- **What keeps two walks in step**: a relation between their sessions that no operation breaks,
the names of the second walk being those of the first with others put in their places.  Where it
matters, `given` says which calls may give members to which handles. -/
structure Lockstep (ρ : String → String) (R : Session → Session → Prop)
    (given : String → String → Prop := fun _ _ => True) : Prop where
  noteLeft {s t : Session} (e : Event) (h : R s t) : R (s.note e) t
  noteRight {s t : Session} (e : Event) (h : R s t) : R s (t.note e)
  declare {d : Int} {s t : Session} (n : String) (isLocal : Bool) (hs : Aligned d s)
    (ht : Aligned d t) (h : R s t) : R (s.declare n d isLocal).2 (t.declare (ρ n) d isLocal).2
  define {d : Int} {s t : Session} (n : String) (isLocal : Bool) (hs : Aligned d s)
    (ht : Aligned d t) (h : R s t) : R (s.define n d isLocal).2 (t.define (ρ n) d isLocal).2
  use {d : Int} {s t : Session} (n : String) (hs : Aligned d s) (ht : Aligned d t) (h : R s t) :
    R (s.use n d).2 (t.use (ρ n) d).2
  assign {d : Int} {s t : Session} (n : String) (hs : Aligned d s) (ht : Aligned d t)
    (h : R s t) : R (s.assign n d).2 (t.assign (ρ n) d).2
  derive {d : Int} {s t : Session} (n callee : String) (hgiven : given n callee)
    (hs : Aligned d s) (ht : Aligned d t) (h : R s t) :
    R (s.derive n callee d).2 (t.derive (ρ n) (ρ callee) d).2
  openScope {s t : Session} (h : R s t) : R s.openScope t.openScope
  closeScope {d : Int} {s t : Session} (hd : 0 < d) (hs : Aligned d s) (ht : Aligned d t)
    (h : R s t) : R s.closeScope.2 t.closeScope.2

namespace Lockstep

variable {ρ : String → String} {R : Session → Session → Prop} {φ : Failure → Failure}
variable {given : String → String → Prop}

/-- Going on after two operations that succeed or fail together. -/
theorem andThen {o o' : Outcome} {next next' : Session → Outcome} (hR : R o.2 o'.2)
    (hfail : o.1.isSome = o'.1.isSome)
    (hnext : ∀ u u', o = (none, u) → o' = (none, u') → R u u' → R (next u).2 (next' u').2) :
    R (o.andThen next).2 (o'.andThen next').2 := by
  obtain ⟨_ | f, u⟩ := o <;> obtain ⟨_ | f', u'⟩ := o'
  · exact hnext u u' rfl rfl hR
  · cases hfail
  · cases hfail
  · exact hR

/-- Each walk may look at a scope that it leaves, whatever the other one does. -/
theorem lookedBack (h : Lockstep ρ R given) {s t : Session} (hR : R s t) (inner : Nat) :
    R (s.lookedBack inner) (t.lookedBack inner) := by
  have hleft : R (s.lookedBack inner) t := by
    unfold Session.lookedBack
    split
    · exact h.noteLeft _ hR
    · exact hR
  generalize s.lookedBack inner = u at hleft ⊢
  unfold Session.lookedBack
  split
  · exact h.noteRight _ hleft
  · exact hleft

theorem leave (h : Lockstep ρ R given) {inner : Nat} (hpos : 0 < inner) {o o' : Outcome}
    (ho : Aligned inner o.2) (ho' : Aligned inner o'.2) (hR : R o.2 o'.2) :
    R (Session.leave inner o).2 (Session.leave inner o').2 := by
  rw [Session.snd_leave_of_isOpen ho.balanced ho.isOpen,
    Session.snd_leave_of_isOpen ho'.balanced ho'.isOpen]
  exact h.closeScope (Int.natCast_pos.2 hpos) (ho.lookedBack inner) (ho'.lookedBack inner)
    (h.lookedBack hR inner)

mutual

/-- **A step keeps two walks in step.** -/
theorem perform_of_gifts (h : Lockstep ρ R given) (d : Int) :
    ∀ (step : Step) {s t : Session}, (∀ g ∈ step.gifts, given g.1 g.2) → Aligned d s →
      Aligned d t → R s t → R (step.perform d s).2 ((step.map ρ φ).perform d t).2
  | .enter _, _, _, _, _, _, hR | .ignore _, _, _, _, _, _, hR => h.noteRight _ (h.noteLeft _ hR)
  | .stop _, _, _, _, _, _, hR => hR
  | .declare n isLocal, _, _, _, hs, ht, hR => h.declare n isLocal hs ht hR
  | .define n isLocal, _, _, _, hs, ht, hR => h.define n isLocal hs ht hR
  | .use n, _, _, _, hs, ht, hR => h.use n hs ht hR
  | .assign n, _, _, _, hs, ht, hR => h.assign n hs ht hR
  | .derive n callee, _, _, hgiven, hs, ht, hR => by
    rw [Step.gifts, List.forall_mem_singleton] at hgiven
    rw [Step.map, Step.perform, Step.perform]
    exact h.derive n callee hgiven hs ht hR
  | .function body, s, t, hgiven, hs, ht, hR => by
    have hlength : t.scopes.defined.length = s.scopes.defined.length := by
      have hdepth := hs.depth_eq.trans ht.depth_eq.symm
      have hslength := hs.balanced.depth_add_one
      have htlength := ht.balanced.depth_add_one
      omega
    have hopen := ht.openScope
    rw [hlength] at hopen
    rw [Step.gifts] at hgiven
    have hbody := performAll_of_gifts h s.scopes.defined.length body hgiven hs.openScope hopen
      (h.openScope hR)
    have hframe := Step.frame_performAll s.scopes.defined.length body s.openScope
      hs.balanced.push
    have hframe' := Step.frame_performAll s.scopes.defined.length (Step.mapAll ρ φ body) t.openScope
      ht.balanced.push
    rw [Step.map, Step.perform_function hs.balanced hs.depth_eq,
      Step.perform_function ht.balanced ht.depth_eq, hlength]
    exact h.leave hs.balanced.global (hs.openScope.of_frame hframe) (hopen.of_frame hframe') hbody

/-- **Steps keep two walks in step**, whether the walks succeed or fail. -/
theorem performAll_of_gifts (h : Lockstep ρ R given) (d : Int) :
    ∀ (steps : List Step) {s t : Session}, (∀ g ∈ Step.giftsAll steps, given g.1 g.2) →
      Aligned d s → Aligned d t → R s t →
      R (Step.performAll d steps s).2 (Step.performAll d (Step.mapAll ρ φ steps) t).2
  | [], _, _, _, _, _, hR => by
    rw [Step.mapAll, Step.performAll, Step.performAll]
    exact hR
  | step :: rest, s, t, hgiven, hs, ht, hR => by
    have hfail : (step.perform d s).1.isSome = ((step.map ρ φ).perform d t).1.isSome := by
      rw [Step.failure_perform d step s hs, Step.failure_perform d _ t ht, Step.stops_map,
        List.head?_map, Option.isSome_map]
    rw [Step.giftsAll, List.forall_mem_append] at hgiven
    rw [Step.mapAll, Step.performAll, Step.performAll]
    refine andThen (perform_of_gifts h d step hgiven.1 hs ht hR) hfail fun u u' hu hu' hR' => ?_
    have hframe := Step.frame_perform d step s hs.balanced
    have hframe' := Step.frame_perform d (step.map ρ φ) t ht.balanced
    rw [hu] at hframe
    rw [hu'] at hframe'
    exact performAll_of_gifts h d rest hgiven.2 (hs.of_frame hframe) (ht.of_frame hframe') hR'

end

/-- …and with a relation that withstands every call, whatever it gives to whom. -/
theorem performAll (h : Lockstep ρ R) (d : Int) (steps : List Step) {s t : Session}
    (hs : Aligned d s) (ht : Aligned d t) (hR : R s t) :
    R (Step.performAll d steps s).2 (Step.performAll d (Step.mapAll ρ φ steps) t).2 :=
  h.performAll_of_gifts d steps (fun _ _ => trivial) hs ht hR

/-- Two walks over one and the same list of steps. -/
theorem performAll_same (h : Lockstep id R) {d : Int} (steps : List Step) {s t : Session}
    (hs : Aligned d s) (ht : Aligned d t) (hR : R s t) :
    R (Step.performAll d steps s).2 (Step.performAll d steps t).2 := by
  have hwalk := h.performAll (φ := id) d steps hs ht hR
  rw [Step.mapAll_id] at hwalk
  exact hwalk

end Lockstep

namespace Session

/-! ## What a run comes to -/

/-- The report on a walk that found something and failed, or did not. -/
def conclude (path : Option String) (findings : List Finding) :
    Option Failure → Except Failure Report
  | none => .ok ⟨path, findings, [], true⟩
  | some f =>
    match f.message? with
    | some m => .ok ⟨path, findings, [m], false⟩
    | none => .error f

theorem fst_verify (s : Session) (path : Option String) :
    (s.verify path).1 = conclude path (s.walk 0).2.findings (s.walk 0).1 := by
  rcases s.verify_cases path with ⟨t, hw, hv⟩ | ⟨f, m, t, hw, hm, hv⟩ | ⟨f, t, hw, hm, hv⟩
  · rw [hw, hv, conclude]
  · rw [hw, hv]
    simp only [conclude, hm]
  · rw [hw, hv]
    simp only [conclude, hm]

/-- A report holds the findings of its session. -/
theorem findings_of_verify {s : Session} {path : Option String} {r : Report}
    (h : (s.verify path).1 = .ok r) : r.findings = (s.verify path).2.findings := by
  rcases s.verify_cases path with ⟨t, -, hv⟩ | ⟨f, m, t, -, -, hv⟩ | ⟨f, t, -, -, hv⟩
  · obtain rfl : _ = r := by simpa [hv] using h
    rw [hv]
  · obtain rfl : _ = r := by simpa [hv] using h
    rw [hv]
  · simp [hv] at h

/-- **A run is its first stop and its findings.** -/
theorem fst_verify_start (settings : Settings) (tree : Value) (path : Option String) :
    ((start settings tree).verify path).1 =
      conclude path ((start settings tree).verify path).2.findings
        (Step.stopsAll (blockSteps tree)).head? := by
  rw [fst_verify, snd_verify, failure_walk_start]

/-- Two runs with the same failure are told apart by their findings alone. -/
theorem conclude_congr {α : Type} (view : Report → α) {path : Option String}
    {findings findings' : List Finding} (failure : Option Failure)
    (hview : ∀ errors success,
      view ⟨path, findings, errors, success⟩ = view ⟨path, findings', errors, success⟩) :
    (conclude path findings failure).map view = (conclude path findings' failure).map view := by
  cases failure with
  | none => exact congrArg Except.ok (hview [] true)
  | some f =>
    cases hm : f.message? with
    | none => simp only [conclude, hm, Except.map]
    | some m => simp only [conclude, hm, Except.map, hview]

/-! ## Uses -/

/-- **Two walks over the same steps use the same names.** -/
theorem lockstep_used : Lockstep id fun s t => s.scopes.used = t.scopes.used where
  noteLeft _ h := h
  noteRight _ h := h
  declare n isLocal _ _ h := by
    rw [scopes_declare, scopes_declare]
    exact h
  define n isLocal hs ht h :=
    (defines_define hs n isLocal).used_eq.trans (h.trans (defines_define ht n isLocal).used_eq.symm)
  use n hs ht h := by
    rw [scopes_use hs.balanced, scopes_use ht.balanced, if_pos hs.isOpen, if_pos ht.isOpen]
    exact congrArg (fun used : List Names => used.modify _ (·.add n)) h
  assign n hs ht h :=
    (defines_assign hs n).used_eq.trans (h.trans (defines_assign ht n).used_eq.symm)
  derive n callee _ hs ht h := by
    rw [(defines_derive hs n callee).used_eq, id, id, (defines_derive ht n callee).used_eq]
    exact h
  openScope h := congrArg (· ++ [[]]) h
  closeScope hd hs ht h := by
    rw [scopes_closeScope_of_aligned hs hd, scopes_closeScope_of_aligned ht hd]
    exact congrArg List.dropLast h

/-- **Failures and uses do not depend on the settings.**  Under any two settings a tree is walked to
the same failure, or to its end; the report is a success or not and has the same errors, or the same
failure escapes; and the same names were used in the global scope. -/
theorem verify_independent_of_settings (A B : Settings) (tree : Value) (path : Option String) :
    ((start A tree).walk 0).1 = ((start B tree).walk 0).1 ∧
      ((start A tree).verify path).1.map (fun r => (r.success, r.errors)) =
        ((start B tree).verify path).1.map (fun r => (r.success, r.errors)) ∧
      ((start A tree).verify path).2.scopes.usedAt 0 =
        ((start B tree).verify path).2.scopes.usedAt 0 := by
  refine ⟨?_, ?_, ?_⟩
  · rw [failure_walk_start, failure_walk_start]
  · rw [fst_verify_start, fst_verify_start]
    exact conclude_congr (fun r => (r.success, r.errors)) _ fun _ _ => rfl
  · have hstart : (start A tree).scopes.used = (start B tree).scopes.used :=
      (fresh_start A tree).used_eq.trans (fresh_start B tree).used_eq.symm
    have hused := lockstep_used.performAll_same (blockSteps tree) (aligned_walking A tree)
      (aligned_walking B tree) hstart
    rw [snd_verify, snd_verify, walk_start, walk_start, Scopes.usedAt, Scopes.usedAt, hused]

end Session

end DefUse
