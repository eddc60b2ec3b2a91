import DefUse.Check.File
import DefUse.Proofs.Check.History
import DefUse.Proofs.Check.Lockstep

/-!
# Proofs/Check/Inert — asking for a trace changes nothing else

A walk with a trace makes requests that a walk without one does not make: it looks at the scope of
each function that it leaves, and such a request can be refused.  In a run it never is, because the
scope that is looked at is the innermost one (`Session.lookBack_of_isOpen`).  So two walks over one
tree, one with a trace and one without, stay **alike** (`lockstep_alike`) and fail together, and a
file is checked to the same report, or to the same escape, either way (`checkFile_traced`).
-/

namespace DefUse

open Step (Aligned)

namespace Session

variable {s t u : Session}

theorem Alike.symm (h : Alike s t) : Alike t s :=
  ⟨h.settings_eq.symm, h.scopes_eq.symm, h.findings_eq.symm⟩

theorem Alike.trans (h : Alike s t) (h' : Alike t u) : Alike s u :=
  ⟨h.settings_eq.trans h'.settings_eq, h.scopes_eq.trans h'.scopes_eq,
    h.findings_eq.trans h'.findings_eq⟩

/-- Alike sessions stay alike when the same name is defined in both, wherever that is. -/
theorem Alike.define_same (h : Alike s t) (n : String) (d : Int) (isLocal : Bool) :
    Alike (s.define n d isLocal).2 (t.define n d isLocal).2 :=
  (h.define n d isLocal).trans ((Alike.refl t).define n d isLocal).symm

/-- Defining a name fails as the scopes say, and in alike sessions they say the same. -/
theorem Alike.isSome_define (h : Alike s t) (n : String) (d : Int) (isLocal : Bool) :
    (s.define n d isLocal).1.isSome = (t.define n d isLocal).1.isSome := by
  unfold Session.define
  rw [h.scopes_eq]
  split <;> rfl

theorem Alike.defineAll_same (d : Int) (names : List String) :
    ∀ {s t : Session}, Alike s t → Alike (s.defineAll d names).2 (t.defineAll d names).2 := by
  induction names with
  | nil => exact fun h => h
  | cons n rest ih =>
    exact fun h => Lockstep.andThen (h.define_same n d true) (h.isSome_define n d true)
      fun _ _ _ _ hu => ih hu

/-- **Two walks over the same steps stay alike**, whichever of them has a trace. -/
theorem lockstep_alike : Lockstep id Alike where
  noteLeft e h := h.note_left e
  noteRight e h := (h.symm.note_left e).symm
  declare {d s t} n isLocal _ _ h :=
    (h.declare n d isLocal).trans ((Alike.refl t).declare n d isLocal).symm
  define {d s t} n isLocal _ _ h := h.define_same n d isLocal
  use {d s t} n _ _ h := h.use n d
  assign {d s t} n _ _ h := by
    rw [Session.assign, Session.assign, h.scopes_eq, id]
    rcases t.scopes.find n d with f | _ | owner
    · exact h
    · exact h.define_same n 0 false
    · exact h.define_same n owner true
  derive {d s t} n callee _ _ _ h := by
    have hmembers : s.derivedMembers n callee d = t.derivedMembers n callee d := by
      rw [derivedMembers, derivedMembers, h.settings_eq, h.scopes_eq]
    rw [Session.derive, Session.derive, hmembers, id, id]
    rcases t.derivedMembers n callee d with f | members
    · exact h
    · exact h.defineAll_same d _
  openScope h := h.openScope
  closeScope _ _ _ h := h.closeScope

/-- A session with a trace is alike to the one without. -/
theorem alike_begin (settings : Settings) (tree : Value) (traced : Bool) :
    Alike (Session.begin settings tree traced) (start settings tree) := by
  cases traced
  · exact Alike.refl _
  · exact ⟨rfl, rfl, rfl⟩

theorem walk_begin (settings : Settings) (tree : Value) (traced : Bool) :
    (Session.begin settings tree traced).walk 0 =
      Step.performAll 0 (blockSteps tree) (Session.begin settings tree traced).walking := by
  cases traced with
  | false => exact walk_start settings tree 0
  | true =>
    have h := fresh_start settings tree
    have htree : (start settings tree).withTrace.tree = tree := h.tree_eq
    rw [Session.begin, if_pos rfl, walk, if_neg (by simp [withTrace, h.walked_eq])]
    exact congrArg (fun t => Step.performAll 0 (blockSteps t) _) htree

/-- **A tree is checked to the same report with a trace and without.** -/
theorem fst_verify_begin (settings : Settings) (tree : Value) (traced : Bool)
    (path : Option String) :
    ((Session.begin settings tree traced).verify path).1 =
      ((start settings tree).verify path).1 := by
  have hbegin := alike_begin settings tree traced
  have hplain := aligned_walking settings tree
  have haligned : Aligned 0 (Session.begin settings tree traced).walking := by
    refine ⟨?_, ?_⟩
    · exact hbegin.scopes_eq ▸ hplain.balanced
    · exact (congrArg (fun scopes : Scopes => (scopes.depth : Int)) hbegin.scopes_eq).trans
        hplain.depth_eq
  have hwalk := lockstep_alike.performAll_same (blockSteps tree) haligned hplain
    ⟨hbegin.settings_eq, hbegin.scopes_eq, hbegin.findings_eq⟩
  rw [fst_verify, fst_verify, walk_begin, walk_start, hwalk.findings_eq,
    Step.failure_performAll 0 _ _ haligned, Step.failure_performAll 0 _ _ hplain]

end Session

variable [Libraries] {d : Disk} {p : Path}

/-- A file that gives a tree is checked by walking it. -/
theorem checkFile_of_ok {tree : Value} (h : d.loadTree p = .ok tree) (traced : Bool)
    (settings : Settings) :
    checkFile d traced settings p =
      (((Session.begin settings tree traced).verify (some p.text)).1.mapError .walk,
        some ((Session.begin settings tree traced).verify (some p.text)).2) := by
  delta checkFile
  simp only [h]

/-- One that gives none is reported on if there is a message for that. -/
theorem checkFile_of_error {e : LoadError} (h : d.loadTree p = .error e) (traced : Bool)
    (settings : Settings) :
    checkFile d traced settings p =
      (e.message?.elim (.error (.load e)) fun m => .ok (.failed (some p.text) m), none) := by
  delta checkFile
  cases hmessage : e.message? <;> simp only [h, hmessage, Option.elim]

theorem verifyFile_some (settings : Settings) :
    verifyFile d (some settings) p = (checkFile d false settings p).1 := rfl

/-- **A file is checked to the same report with a trace and without**, or the same ends the
check. -/
theorem checkFile_traced (d : Disk) (traced : Bool) (settings : Settings) (p : Path) :
    (checkFile d traced settings p).1 = (checkFile d false settings p).1 := by
  cases hload : d.loadTree p with
  | error e => rw [checkFile_of_error hload, checkFile_of_error hload]
  | ok tree =>
    rw [checkFile_of_ok hload, checkFile_of_ok hload]
    exact congrArg (Except.mapError Escape.walk)
      ((Session.fst_verify_begin settings tree traced (some p.text)).trans
        (Session.fst_verify_begin settings tree false (some p.text)).symm)

end DefUse
