import DefUse.Proofs.Check.Stops

/-!
# Proofs/Check/Depths — the trace of a run tells depths as they are

Every statement entered and every name used leaves an event with the depth it happened at, and every
scope opened and closed leaves one too.  So a trace can be held against itself: `Event.Faithful`
says that each depth it tells is the number of scopes opened and not yet closed before it.

`traced_performAll` says that the trace of an aligned walk stays faithful, whether it fails or not.
-/

namespace DefUse

namespace Event

/-- How many scopes below the global one are open after some events, the latest of them first. -/
def level : List Event → Int
  | [] => 0
  | .opened _ :: rest => level rest + 1
  | .closed _ :: rest => level rest - 1
  | _ :: rest => level rest

/-- The depth at which an event tells that something was done in the innermost scope. -/
def depth? : Event → Option Int
  | .entered _ d | .used _ d _ => some d
  | .closed k => some k
  | .opened _ | .defined _ _ | .warned _ | .retracted _ | .ignored _ | .left _ => none

/-- **A trace that tells depths as they are.** -/
def Faithful : List Event → Prop
  | [] => True
  | e :: rest => (∀ d, e.depth? = some d → d = level rest) ∧ Faithful rest

end Event

namespace Session

open Event (Faithful level)
open Scopes (target)
open Step (Aligned)

variable {s : Session} {n : String} {d : Int} {isLocal : Bool}

/-- **A session whose trace is faithful**, and agrees with its scopes. -/
structure Traced (s : Session) : Prop where
  faithful : Faithful s.events
  level_eq : level s.events = s.scopes.depth

namespace Traced

/-- An event that opens and closes nothing, told at the depth of the innermost scope. -/
theorem note (h : Traced s) (e : Event) (hlevel : level (e :: s.events) = level s.events)
    (hd : ∀ d, e.depth? = some d → d = s.scopes.depth) : Traced (s.note e) :=
  ⟨⟨fun d he => (hd d he).trans h.level_eq.symm, h.faithful⟩, hlevel.trans h.level_eq⟩

/-- …and scopes of which as many are open. -/
theorem of_depth_eq {scopes : Scopes} (h : Traced s) (hdepth : scopes.depth = s.scopes.depth) :
    Traced { s with scopes } :=
  ⟨h.faithful, h.level_eq.trans (by rw [hdepth])⟩

theorem warn (h : Traced s) (f : Finding) : Traced (s.warn f) := by
  unfold Session.warn
  split
  · exact h
  · have hnote : Traced (s.note (.warned f)) := h.note _ rfl (by simp [Event.depth?])
    exact ⟨hnote.faithful, hnote.level_eq⟩

theorem retract (h : Traced s) (n : String) : Traced (s.retract n) := by
  simp only [Session.retract]
  split
  · have hnote : Traced (s.note (.retracted n)) := h.note _ rfl (by simp [Event.depth?])
    exact ⟨hnote.faithful, hnote.level_eq⟩
  · exact h

/-- A declaration tells no depth. -/
theorem declare (h : Traced s) : Traced (s.declare n d isLocal).2 := by
  unfold Session.declare
  split
  · exact h
  · exact h.warn ⟨.redefinition, n⟩
  · exact h.retract n

/-- Nor does a definition, which may be for another scope than the innermost one. -/
theorem define (h : Traced s) : Traced (s.define n d isLocal).2 := by
  unfold Session.define
  split
  · exact h
  · rename_i k scopes hdef
    obtain ⟨-, rfl⟩ := Scopes.define_eq_ok_iff.1 hdef
    have hnote : Traced (s.note (.defined n k)) := h.note _ rfl (by simp [Event.depth?])
    exact hnote.of_depth_eq (by simp [Scopes.depth])

/-- A use is told at the depth that the session is aligned with. -/
theorem use (h : Traced s) (hd : Aligned d s) : Traced (s.use n d).2 := by
  have hnote : Traced (s.note (.used n d (s.scopes.Sees n d))) :=
    h.note _ rfl (by simp [Event.depth?, hd.depth_eq])
  have hused : Traced (s.recordUse n d) := hnote.of_depth_eq (by simp [Scopes.depth])
  rw [use_of_isOpen hd.balanced hd.isOpen]
  dsimp only
  split
  · exact hused
  · exact hused.warn _

theorem assign (h : Traced s) : Traced (s.assign n d).2 := by
  unfold Session.assign
  split
  · exact h
  · exact h.define
  · exact h.define

theorem defineAll (names : List String) :
    ∀ {s : Session}, Traced s → Traced (s.defineAll d names).2 := by
  induction names with
  | nil => exact fun h => h
  | cons n rest ih =>
    intro s h
    exact Outcome.snd_andThen h.define fun t _ ht => ih ht

theorem derive (h : Traced s) (callee : String) : Traced (s.derive n callee d).2 := by
  unfold Session.derive
  split
  · exact h
  · exact h.defineAll _

/-- A scope that is opened adds one to the level and to the depth. -/
theorem openScope (h : Traced s) (hs : s.scopes.Balanced) : Traced s.openScope := by
  have hdepth := hs.depth_add_one
  have hlevel := h.level_eq
  refine ⟨⟨by simp [Event.depth?], h.faithful⟩, ?_⟩
  change level s.events + 1 = s.scopes.push.depth
  rw [Scopes.depth_push]
  omega

theorem lookedBack (h : Traced s) (inner : Nat) : Traced (s.lookedBack inner) := by
  unfold Session.lookedBack
  split
  · exact h.note _ rfl (by simp [Event.depth?])
  · exact h

/-- A function that is left tells the depth that it was at. -/
theorem left (h : Traced s) (hlt : 1 < s.scopes.defined.length) (inner : Nat) :
    Traced (s.left inner) := by
  have hback := h.lookedBack inner
  have hlevel : level (s.lookedBack inner).events = s.scopes.depth := by
    rw [hback.level_eq, scopes_lookedBack]
  refine ⟨⟨fun d he => ?_, hback.faithful⟩, ?_⟩
  · exact (Option.some.inj he).symm.trans hlevel.symm
  · change level (s.lookedBack inner).events - 1 = s.scopes.dropInnermost.depth
    rw [hlevel, Scopes.depth, Scopes.depth, List.length_dropLast]
    omega

end Traced

end Session

namespace Step

open Session (Traced)

mutual

/-- **An aligned step keeps the trace faithful**, whether it succeeds or fails. -/
theorem traced_perform (d : Int) :
    ∀ (step : Step) {s : Session}, Aligned d s → Traced s → Traced (step.perform d s).2
  | .enter _, _, hd, h => h.note _ rfl (by simp [Event.depth?, hd.depth_eq])
  | .ignore _, _, _, h => h.note _ rfl (by simp [Event.depth?])
  | .stop _, _, _, h => h
  | .declare _ _, _, _, h => h.declare
  | .define _ _, _, _, h => h.define
  | .use _, _, hd, h => h.use hd
  | .assign _, _, _, h => h.assign
  | .derive _ callee, _, _, h => h.derive callee
  | .function body, s, hd, h => by
    have hframe := frame_performAll s.scopes.defined.length body s.openScope hd.balanced.push
    have hbody := traced_performAll s.scopes.defined.length body hd.openScope
      (h.openScope hd.balanced)
    rw [perform_function hd.balanced hd.depth_eq, leave_of_frame hd.balanced hframe]
    exact hbody.left (lt_length_of_frame hd.balanced hframe) _

/-- **A walk tells depths as they are.**  By induction on the steps. -/
theorem traced_performAll (d : Int) :
    ∀ (steps : List Step) {s : Session}, Aligned d s → Traced s → Traced (performAll d steps s).2
  | [], _, _, h => h
  | step :: rest, s, hd, h => by
    have hframe := frame_perform d step s hd.balanced
    rw [performAll]
    refine Outcome.snd_andThen (traced_perform d step hd h) fun t ht htraced => ?_
    rw [ht] at hframe
    exact traced_performAll d rest (hd.of_frame hframe) htraced

end

end Step

/-- At the start no scope was opened or closed. -/
theorem Session.traced_start (settings : Settings) (tree : Value) : Traced (start settings tree) :=
  start_induction ⟨trivial, rfl⟩ fun _ _ _ h => h.define

end DefUse
