import DefUse.Proofs.Check.Laws

/-!
# Proofs/Check/Frame — what a walk can change, however it ends

`Scopes.Frame d` relates the scopes before and after something done at depth `d`: as many scopes are
open as before, names are only ever added, and they are added to nothing but the definitions of the
global scope and the scope at `d` itself.  `Scopes.Sealed` is what is left of it outside a function:
nothing but the definitions of the global scope may have grown.

Both are statements about *every* outcome.  A step that fails half way has the same frame as one
that succeeds, because a function closes the scope it opened in either case; that is the one place
where the induction over steps changes the depth (`Frame.sealed`).
-/

namespace DefUse

namespace Scopes

variable {s t u : Scopes} {n : String} {d : Int} {k : Nat}

/-- **Nothing is lost, and only the global definitions and the scope at `d` may grow.** -/
structure Frame (d : Int) (s t : Scopes) : Prop where
  definedLength : t.defined.length = s.defined.length
  usedLength : t.used.length = s.used.length
  defined_eq : ∀ k : Nat, k ≠ 0 → (k : Int) ≠ d → t.definedAt k = s.definedAt k
  used_eq : ∀ k : Nat, (k : Int) ≠ d → t.usedAt k = s.usedAt k
  defined_subset : ∀ k, s.definedAt k ⊆ t.definedAt k
  used_subset : ∀ k, s.usedAt k ⊆ t.usedAt k

/-- **Nothing is lost, and only the global definitions may grow.** -/
structure Sealed (s t : Scopes) : Prop where
  definedLength : t.defined.length = s.defined.length
  usedLength : t.used.length = s.used.length
  defined_eq : ∀ k, k ≠ 0 → t.definedAt k = s.definedAt k
  used_eq : ∀ k, t.usedAt k = s.usedAt k
  global_subset : s.definedAt 0 ⊆ t.definedAt 0

namespace Frame

theorem refl (d : Int) (s : Scopes) : Frame d s s :=
  ⟨rfl, rfl, fun _ _ _ => rfl, fun _ _ => rfl, fun _ => List.Subset.refl _,
    fun _ => List.Subset.refl _⟩

theorem trans (h₁ : Frame d s t) (h₂ : Frame d t u) : Frame d s u where
  definedLength := h₂.definedLength.trans h₁.definedLength
  usedLength := h₂.usedLength.trans h₁.usedLength
  defined_eq k h0 hd := (h₂.defined_eq k h0 hd).trans (h₁.defined_eq k h0 hd)
  used_eq k hd := (h₂.used_eq k hd).trans (h₁.used_eq k hd)
  defined_subset k := List.Subset.trans (h₁.defined_subset k) (h₂.defined_subset k)
  used_subset k := List.Subset.trans (h₁.used_subset k) (h₂.used_subset k)

theorem balanced (hf : Frame d s t) (h : s.Balanced) : t.Balanced :=
  ⟨by rw [hf.definedLength, hf.usedLength, h.inStep], by rw [hf.definedLength]; exact h.global⟩

theorem depth_eq (hf : Frame d s t) : t.depth = s.depth := by
  rw [depth, depth, hf.definedLength]

theorem isOpen {e : Int} (hf : Frame d s t) (he : s.IsOpen e) : t.IsOpen e := by
  rw [IsOpen, hf.definedLength]
  exact he

/-- A definition at the depth of the frame, or in the global scope. -/
theorem addDefined (hk : k = 0 ∨ (k : Int) = d) : Frame d s (s.addDefined k n) where
  definedLength := List.length_modify _ _ _
  usedLength := rfl
  defined_eq j h0 hd := by
    have hne : ¬ (k = j ∧ j < s.defined.length) := by omega
    rw [definedAt_addDefined, if_neg hne]
  used_eq _ _ := rfl
  defined_subset j := by
    intro m hm
    rw [definedAt_addDefined]
    split
    · exact Names.mem_add.2 (Or.inl hm)
    · exact hm
  used_subset _ := List.Subset.refl _

/-- A use at the depth of the frame. -/
theorem addUsed (hk : (k : Int) = d) : Frame d s (s.addUsed k n) where
  definedLength := rfl
  usedLength := List.length_modify _ _ _
  defined_eq _ _ _ := rfl
  used_eq j hd := by
    have hne : ¬ (k = j ∧ j < s.used.length) := by omega
    rw [usedAt_addUsed, if_neg hne]
  defined_subset _ := List.Subset.refl _
  used_subset j := by
    intro m hm
    rw [usedAt_addUsed]
    split
    · exact Names.mem_add.2 (Or.inl hm)
    · exact hm

end Frame

theorem Sealed.frame (h : Sealed s t) (d : Int) : Frame d s t where
  definedLength := h.definedLength
  usedLength := h.usedLength
  defined_eq k h0 _ := h.defined_eq k h0
  used_eq k _ := h.used_eq k
  defined_subset k := by
    rcases Nat.eq_zero_or_pos k with rfl | hk
    · exact h.global_subset
    · rw [h.defined_eq k (by omega)]
      exact List.Subset.refl _
  used_subset k := by
    rw [h.used_eq k]
    exact List.Subset.refl _

/-- Outside the scopes that are open there is nothing to see. -/
theorem definedAt_of_le (hk : s.defined.length ≤ k) : s.definedAt k = [] := by
  rw [definedAt, List.getElem?_eq_none hk]
  rfl

theorem usedAt_of_le (hk : s.used.length ≤ k) : s.usedAt k = [] := by
  rw [usedAt, List.getElem?_eq_none hk]
  rfl

/-- **Closing a scope seals what was done in it**: a frame at the depth of a scope that was opened
for the purpose becomes, once the scope is gone, one that leaves the outer scopes alone. -/
theorem Frame.sealed (h : s.Balanced) (hf : Frame s.defined.length s.push t) :
    Sealed s t.dropInnermost := by
  have hd : t.defined.length = s.defined.length + 1 := by
    rw [hf.definedLength]
    simp [push]
  have hu : t.used.length = s.used.length + 1 := by
    rw [hf.usedLength]
    simp [push]
  have hstep := h.inStep
  have hglobal := h.global
  refine ⟨by simp [hd], by simp [hu], fun k h0 => ?_, fun k => ?_, ?_⟩
  · rcases Nat.lt_or_ge k s.defined.length with hk | hk
    · rw [definedAt_dropInnermost (by omega), hf.defined_eq k h0 (by omega), definedAt_push]
    · rw [definedAt_of_le hk, definedAt_of_le (by simpa [hd] using hk)]
  · rcases Nat.lt_or_ge k s.used.length with hk | hk
    · rw [usedAt_dropInnermost (by omega), hf.used_eq k (by omega), usedAt_push]
    · rw [usedAt_of_le hk, usedAt_of_le (by simpa [hu] using hk)]
  · rw [definedAt_dropInnermost (by omega), ← definedAt_push]
    exact hf.defined_subset 0

end Scopes

/-- **Frames follow one another**: what goes on after an operation stays in the frame, and a failure
ends in the frame of what came before it. -/
theorem Outcome.frame_andThen {d : Int} {s : Scopes} {o : Outcome} {next : Session → Outcome}
    (h : s.Frame d o.2.scopes)
    (hnext : ∀ t, o = (none, t) → t.scopes.Frame d (next t).2.scopes) :
    s.Frame d (o.andThen next).2.scopes :=
  Outcome.snd_andThen (motive := fun t => s.Frame d t.scopes) h
    fun t ht hframe => hframe.trans (hnext t ht)

/-! ## The frame of an operation -/

namespace Session

open Scopes (target Frame)

variable {s : Session} {n : String} {d : Int} {isLocal : Bool}

theorem frame_define (h : s.scopes.Balanced) :
    Frame d s.scopes (s.define n d isLocal).2.scopes := by
  rw [scopes_define h]
  split
  · rename_i hd
    refine Frame.addDefined ?_
    cases isLocal with
    | false => exact Or.inl rfl
    | true => exact Or.inr (Int.toNat_of_nonneg hd.1)
  · exact Frame.refl d _

theorem frame_use (h : s.scopes.Balanced) : Frame d s.scopes (s.use n d).2.scopes := by
  rw [scopes_use h]
  split
  · rename_i hd
    exact Frame.addUsed (Int.toNat_of_nonneg hd.1)
  · exact Frame.refl d _

theorem frame_assign (h : s.scopes.Balanced) : Frame d s.scopes (s.assign n d).2.scopes := by
  by_cases hd : s.scopes.IsOpen d
  · rw [(assign_of_isOpen h hd).2]
    split
    · exact Frame.refl d _
    · exact Frame.addDefined (Or.inl rfl)
  · obtain ⟨f, hf⟩ := assign_of_not_isOpen (n := n) hd
    rw [hf]
    exact Frame.refl d _

theorem frame_defineAll (names : List String) :
    ∀ {s : Session}, s.scopes.Balanced → Frame d s.scopes (s.defineAll d names).2.scopes := by
  induction names with
  | nil => exact fun _ => Frame.refl d _
  | cons n rest ih =>
    intro s h
    have hdef : Frame d s.scopes (s.define n d true).2.scopes := frame_define h
    refine Outcome.frame_andThen hdef fun t ht => ih ?_
    rw [ht] at hdef
    exact hdef.balanced h

theorem frame_derive (h : s.scopes.Balanced) (callee : String) :
    Frame d s.scopes (s.derive n callee d).2.scopes := by
  unfold derive
  split
  · exact Frame.refl d _
  · exact frame_defineAll _ h

/-- Names are defined one after the other wherever a scope is open. -/
theorem failure_defineAll (names : List String) :
    ∀ {s : Session}, s.scopes.Balanced → s.scopes.IsOpen d → (s.defineAll d names).1 = none := by
  induction names with
  | nil => exact fun _ _ => rfl
  | cons n rest ih =>
    intro s h hd
    have hopen : s.scopes.IsOpen (target d true) := hd
    have hframe : Frame d s.scopes (s.define n d true).2.scopes := frame_define h
    rw [define_of_isOpen h hopen] at hframe
    rw [defineAll, define_of_isOpen h hopen, Outcome.andThen_none]
    exact ih (hframe.balanced h) (hframe.isOpen hd)

theorem failure_derive (h : s.scopes.Balanced) (hd : s.scopes.IsOpen d) (name callee : String) :
    (s.derive name callee d).1 = none := by
  obtain ⟨members, hm⟩ := exists_derivedMembers h hd name callee
  rw [derive, hm]
  exact failure_defineAll _ h hd

end Session

/-! ## The frame of a walk -/

namespace Step

open Scopes (Frame Sealed)

/-- While a function body is carried out, its scope is open. -/
theorem isOpen_of_frame {s : Scopes} {d : Int} {t : Scopes} (hf : Frame d s.push t) :
    t.IsOpen s.defined.length := by
  rw [Scopes.IsOpen, hf.definedLength]
  simp only [Scopes.push, List.length_append, List.length_singleton]
  omega

/-- …besides the global one. -/
theorem lt_length_of_frame {s : Scopes} {d : Int} {t : Scopes} (h : s.Balanced)
    (hf : Frame d s.push t) : 1 < t.defined.length := by
  have hopen := (isOpen_of_frame hf).2
  have hglobal := h.global
  omega

/-- **A function leaves the scope it opened**, however its body ended. -/
theorem leave_of_frame {s : Scopes} {d : Int} {o : Outcome} (h : s.Balanced)
    (hf : Frame d s.push o.2.scopes) :
    Session.leave s.defined.length o = (o.1, o.2.left s.defined.length) :=
  Session.leave_of_isOpen (hf.balanced h.push) (isOpen_of_frame hf) h.global

/-- A function seals its body, given that the body has its frame. -/
theorem sealed_function {d : Int} {body : List Step} {s : Session} (h : s.scopes.Balanced)
    (hbody : Frame s.scopes.defined.length s.scopes.push
      (performAll s.scopes.defined.length body s.openScope).2.scopes) :
    Sealed s.scopes ((Step.function body).perform d s).2.scopes := by
  by_cases hd : (s.scopes.depth : Int) = d
  · rw [perform_function h hd, leave_of_frame h hbody]
    exact hbody.sealed h
  · rw [(perform_function_of_ne h hd).2]
    exact ⟨rfl, rfl, fun _ _ => rfl, fun _ => rfl, List.Subset.refl _⟩

mutual

/-- **Every step has its frame**, whether it succeeds or fails. -/
theorem frame_perform (d : Int) :
    ∀ (step : Step) (s : Session), s.scopes.Balanced → Frame d s.scopes (step.perform d s).2.scopes
  | .enter _, s, _ => Frame.refl d s.scopes
  | .ignore _, s, _ => Frame.refl d s.scopes
  | .stop _, s, _ => Frame.refl d s.scopes
  | .declare n isLocal, s, _ => by
    rw [perform, Session.scopes_declare]
    exact Frame.refl d s.scopes
  | .define _ _, _, h => Session.frame_define h
  | .use _, _, h => Session.frame_use h
  | .assign _, _, h => Session.frame_assign h
  | .derive _ callee, _, h => Session.frame_derive h callee
  | .function body, s, h =>
    (sealed_function h (frame_performAll s.scopes.defined.length body s.openScope h.push)).frame d

theorem frame_performAll (d : Int) :
    ∀ (steps : List Step) (s : Session), s.scopes.Balanced →
      Frame d s.scopes (performAll d steps s).2.scopes
  | [], s, _ => Frame.refl d s.scopes
  | step :: rest, s, h => by
    have hstep := frame_perform d step s h
    rw [performAll]
    refine Outcome.frame_andThen hstep fun t ht => frame_performAll d rest t ?_
    rw [ht] at hstep
    exact hstep.balanced h

end

end Step

/-- **Balance and frame of a statement, on every outcome.**  Visiting any value as a statement, at
any depth, leaves as many scopes open as there were and adds names only to the global definitions
and to the scope at that depth, and the body of a function adds names to the global definitions
alone. -/
theorem Session.frame_visitStatement (s : Session) (h : s.scopes.Balanced) (node : Value)
    (d : Int) :
    s.scopes.Frame d (s.visitStatement node d).2.scopes ∧
      ∀ body, s.scopes.Sealed ((Step.function body).perform d s).2.scopes :=
  ⟨Step.frame_performAll d _ s h, fun body => Step.sealed_function h
    (Step.frame_performAll _ body s.openScope h.push)⟩

/-- A function given up half way, in a scope below the global one: its body assigns to `g` and uses
`h` before it comes to a statement of an unknown kind. -/
theorem Session.frame_visitStatement_abandoned :
    let s := (Session.start ⟨["print"], [], .colon, "Clone"⟩ .null).openScope
    let name (n : String) : Value := .record [("type", .str "Identifier"), ("name", .str n)]
    let node : Value := .record [("type", .str "FunctionDeclaration"), ("parameters", .list []),
      ("body", .list
        [.record [("type", .str "AssignmentStatement"), ("variables", .list [name "g"])],
         .record [("type", .str "CallStatement"), ("expression", name "h")],
         .record [("type", .str "GotoStatement")]])]
    s.scopes.Balanced ∧ s.scopes.Frame 1 (s.visitStatement node 1).2.scopes ∧
      ∀ body, s.scopes.Sealed ((Step.function body).perform 1 s).2.scopes := by
  intro s name node
  have h : s.scopes.Balanced := ⟨rfl, by decide⟩
  exact ⟨h, Session.frame_visitStatement s h node 1⟩

end DefUse
