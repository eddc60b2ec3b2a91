import Mathlib.Logic.Relation
import DefUse.Check.Report
import DefUse.Proofs.Check.Depths

/-!
# Proofs/Check/Alignment — a run keeps its depth in step with its scopes

A walk carries its depth beside the scopes it opens and closes.  A **point** of a walk is that
depth, the steps still to be carried out at it and the session; `Point.Next` leads from one to the
next, into a function body included.  Whatever is visited, a statement, an expression or an operand,
is visited at a point: its steps are then the first of those left.

`Point.aligned_of_reaches` says that at every point of a run the depth is that of the innermost
scope.  Hence no request of a run is refused, no run fails because of its bookkeeping, and every run
ends with the global scope alone.
-/

namespace DefUse

open Step (Aligned)

/-- The session in which a walk begins. -/
abbrev Session.walking (s : Session) : Session := { s with walked := true }

/-- **A point of a walk**: the depth, the steps left at it, and the session. -/
structure Point where
  depth : Int
  steps : List Step
  session : Session

namespace Point

/-- **What follows a point**: a step was carried out, or the body of a function is entered. -/
inductive Next : Point → Point → Prop
  | step {d : Int} {step : Step} {rest : List Step} {s t : Session}
      (h : step.perform d s = (none, t)) : Next ⟨d, step :: rest, s⟩ ⟨d, rest, t⟩
  | body {d : Int} {body rest : List Step} {s : Session}
      (h : (s.openScope.scopes.depth : Int) = d + 1) :
      Next ⟨d, .function body :: rest, s⟩ ⟨s.openScope.scopes.depth, body, s.openScope⟩

/-- A point is come to from another one. -/
def Reaches : Point → Point → Prop := Relation.ReflTransGen Next

/-- The first point of the walk over a session's tree. -/
def first (s : Session) : Point := ⟨0, blockSteps s.tree, s.walking⟩

/-- **Steps that succeed lead to what comes after them**, so that everything a walk gets to is one
of its points. -/
theorem reaches_append {d : Int} {steps rest : List Step} {s t : Session}
    (h : Step.performAll d steps s = (none, t)) : Reaches ⟨d, steps ++ rest, s⟩ ⟨d, rest, t⟩ := by
  induction steps generalizing s with
  | nil =>
    rw [Step.performAll] at h
    cases h
    exact .refl
  | cons step steps ih =>
    rw [Step.performAll] at h
    rcases hu : step.perform d s with ⟨_ | f, u⟩
    · rw [hu] at h
      exact .head (.step hu) (ih h)
    · rw [hu] at h
      cases h

/-- One step keeps the depth and the scopes aligned. -/
theorem aligned_of_next {m m' : Point} (hn : Next m m') (h : Aligned m.depth m.session) :
    Aligned m'.depth m'.session := by
  cases hn with
  | @step d step rest s t hperform =>
    have hframe := Step.frame_perform d step s h.balanced
    rw [hperform] at hframe
    exact h.of_frame hframe
  | body => exact ⟨h.balanced.push, rfl⟩

/-- **At every point of a walk the depth is that of the innermost scope.** -/
theorem aligned_of_reaches {m m' : Point} (hr : Reaches m m') (h : Aligned m.depth m.session) :
    Aligned m'.depth m'.session := by
  induction hr with
  | refl => exact h
  | tail _ hn ih => exact aligned_of_next hn ih

end Point

/-! ## The messages of failures

A report holds the text of a failure, not the failure.  How the text begins tells the failures of
the bookkeeping from the others. -/

namespace Failure

/-- How the messages of failures of the bookkeeping begin. -/
def internalStarts : List String := ["Cannot h", "Cannot r", "De", "F"]

theorem isInternal_eq_any {f : Failure} {m : String} (h : f.message? = some m) :
    f.isInternal = internalStarts.any fun start => startsWith start m := by
  cases f with
  | unsupported kind place base =>
    cases base <;> cases h <;>
      simp [internalStarts, startsWith, isInternal, toString, List.isPrefixOf]
  | _ => cases h <;> simp [internalStarts, startsWith, isInternal, toString, List.isPrefixOf]

/-- **A message tells** whether the failure it is about is one of the bookkeeping. -/
theorem isInternal_eq_of_message {f g : Failure} {m : String} (hf : f.message? = some m)
    (hg : g.message? = some m) : f.isInternal = g.isInternal :=
  (isInternal_eq_any hf).trans (isInternal_eq_any hg).symm

end Failure

/-! ## Runs -/

namespace Session

variable {s : Session}

theorem aligned_walking (settings : Settings) (tree : Value) :
    Aligned 0 (start settings tree).walking := by
  have h := fresh_start settings tree
  exact ⟨h.balanced, by rw [Scopes.depth, h.definedLength]; rfl⟩

theorem traced_walking (settings : Settings) (tree : Value) :
    Traced (start settings tree).walking :=
  ⟨(traced_start settings tree).faithful, (traced_start settings tree).level_eq⟩

theorem walk_start (settings : Settings) (tree : Value) (d : Int) :
    (start settings tree).walk d =
      Step.performAll d (blockSteps tree) (start settings tree).walking := by
  have h := fresh_start settings tree
  rw [walk, if_neg (by simp [h.walked_eq])]
  exact congrArg (fun t => Step.performAll d (blockSteps t) _) h.tree_eq

/-- **A run fails with the first stop of its tree**, whatever the settings. -/
theorem failure_walk_start (settings : Settings) (tree : Value) :
    ((start settings tree).walk 0).1 = (Step.stopsAll (blockSteps tree)).head? := by
  rw [walk_start]
  exact Step.failure_performAll 0 _ _ (aligned_walking settings tree)

theorem isInternal_of_walk_start {settings : Settings} {tree : Value} {f : Failure}
    (h : ((start settings tree).walk 0).1 = some f) : f.isInternal = false := by
  rw [failure_walk_start] at h
  exact harmless_blockSteps tree f (List.mem_of_head? h)

/-- **What checking a tree comes to**: the walk did not fail, failed with a message, or failed
without one. -/
theorem verify_cases (s : Session) (path : Option String) :
    (∃ t, s.walk 0 = (none, t) ∧ s.verify path = (.ok ⟨path, t.findings, [], true⟩, t)) ∨
    (∃ f m t, s.walk 0 = (some f, t) ∧ f.message? = some m ∧
      s.verify path = (.ok ⟨path, t.findings, [m], false⟩, t)) ∨
    ∃ f t, s.walk 0 = (some f, t) ∧ f.message? = none ∧ s.verify path = (.error f, t) := by
  rcases hw : s.walk 0 with ⟨_ | f, t⟩
  · exact Or.inl ⟨t, rfl, by rw [verify, hw]⟩
  · cases hm : f.message? with
    | some m => exact Or.inr (Or.inl ⟨f, m, t, rfl, hm, by rw [verify, hw]; simp [hm]⟩)
    | none => exact Or.inr (Or.inr ⟨f, t, rfl, hm, by rw [verify, hw]; simp [hm]⟩)

theorem snd_verify (s : Session) (path : Option String) : (s.verify path).2 = (s.walk 0).2 := by
  rcases s.verify_cases path with ⟨t, hw, hv⟩ | ⟨f, m, t, hw, -, hv⟩ | ⟨f, t, hw, -, hv⟩ <;>
    rw [hw, hv]

/-- A report has the message of the failure of the walk for an error, and is a success if there was
no failure. -/
theorem report_of_verify {path : Option String} {r : Report} (h : (s.verify path).1 = .ok r) :
    r.errors = ((s.walk 0).1.bind Failure.message?).toList ∧
      (r.success = true ↔ (s.walk 0).1 = none) := by
  rcases s.verify_cases path with ⟨t, hw, hv⟩ | ⟨f, m, t, hw, hm, hv⟩ | ⟨f, t, hw, -, hv⟩
  · obtain rfl : _ = r := by simpa [hv] using h
    simp [hw]
  · obtain rfl : _ = r := by simpa [hv] using h
    simp [hw, hm]
  · simp [hv] at h

/-- A failure that escapes is that of the walk, and has no message. -/
theorem failure_of_verify {path : Option String} {f : Failure} (h : (s.verify path).1 = .error f) :
    (s.walk 0).1 = some f ∧ f.message? = none := by
  rcases s.verify_cases path with ⟨t, hw, hv⟩ | ⟨g, m, t, hw, hm, hv⟩ | ⟨g, t, hw, hm, hv⟩
  · simp [hv] at h
  · simp [hv] at h
  · obtain rfl : g = f := by simpa [hv] using h
    exact ⟨by rw [hw], hm⟩

theorem reaches_of_walk {settings : Settings} {tree : Value} {t : Session}
    (h : (start settings tree).walk 0 = (none, t)) :
    Point.Reaches (Point.first (start settings tree)) ⟨0, [], t⟩ := by
  rw [walk_start] at h
  rw [Point.first, (fresh_start settings tree).tree_eq, ← List.append_nil (blockSteps tree)]
  exact Point.reaches_append h

/-- **No run fails because of its bookkeeping.**  At every point of a run, up to its end, the depth
of what is visited is that of the innermost scope, and its trace tells so; no run fails, escapes or
is reported with a failure that is about depths or scopes; and every run ends with the global scope
alone. -/
theorem verify_aligned (settings : Settings) (tree : Value) (path : Option String) :
    (∀ m, Point.Reaches (Point.first (start settings tree)) m →
      m.depth = m.session.scopes.depth) ∧
    (∀ t, (start settings tree).walk 0 = (none, t) →
      Point.Reaches (Point.first (start settings tree)) ⟨0, [], t⟩) ∧
    Event.Faithful ((start settings tree).verify path).2.events ∧
    (∀ f, ((start settings tree).walk 0).1 = some f → f.isInternal = false) ∧
    (∀ f, ((start settings tree).verify path).1 = .error f → f.isInternal = false) ∧
    (∀ r, ((start settings tree).verify path).1 = .ok r →
      ∀ f : Failure, f.isInternal = true → ∀ m, f.message? = some m → m ∉ r.errors) ∧
    ((start settings tree).verify path).2.scopes.defined.length = 1 ∧
    ((start settings tree).verify path).2.scopes.used.length = 1 := by
  have hbegin := aligned_walking settings tree
  refine ⟨fun m hm => ?_, fun t ht => reaches_of_walk ht, ?_,
    fun f hf => isInternal_of_walk_start hf,
    fun f hf => isInternal_of_walk_start (failure_of_verify hf).1,
    fun r hr f hf m hm hmem => ?_, ?_⟩
  · exact (Point.aligned_of_reaches hm hbegin).depth_eq.symm
  · rw [snd_verify, walk_start]
    exact (Step.traced_performAll 0 _ hbegin (traced_walking settings tree)).faithful
  · rw [(report_of_verify hr).1, Option.mem_toList, Option.bind_eq_some_iff] at hmem
    obtain ⟨g, hg, hgm⟩ := hmem
    have hsame := Failure.isInternal_eq_of_message hm hgm
    rw [hf, isInternal_of_walk_start hg] at hsame
    cases hsame
  · rw [snd_verify, walk_start]
    have hframe := Step.frame_performAll 0 (blockSteps tree) _ hbegin.balanced
    have hfresh := fresh_start settings tree
    exact ⟨hframe.definedLength.trans hfresh.definedLength,
      hframe.usedLength.trans (congrArg List.length hfresh.used_eq)⟩

end Session

end DefUse
