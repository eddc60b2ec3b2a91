import DefUse.Proofs.Check.History
import DefUse.Proofs.Check.Stops

/-!
# Proofs/Check/Effects — what the steps of an aligned walk do

An aligned walk has every request granted, so what a step does can be said without a case for
refusal.  All the steps that define names do the same kind of thing: `Session.Defines d P` says that
the names with `P` were defined at depth `d` and nothing else was changed.  A definition, an
assignment and a call that gives a handle its members differ in the depth and in the names alone.

A declaration and a use leave the definitions as they are; what they do to the findings is the mark
they make.
-/

namespace DefUse

namespace Scopes

variable {s : Scopes} {n m : String} {k j : Nat}

/-- All that adding a name changes is that it is there. -/
theorem mem_definedAt_addDefined (hk : k < s.defined.length) :
    m ∈ (s.addDefined k n).definedAt j ↔ m ∈ s.definedAt j ∨ j = k ∧ m = n := by
  rw [definedAt_addDefined]
  by_cases hj : j = k
  · subst hj
    simp [hk]
  · have hne : ¬ (k = j ∧ j < s.defined.length) := fun h => hj h.1.symm
    simp [if_neg hne, hj]

/-- Once the innermost scope is gone, the outer ones are as they were and it is empty. -/
theorem definedAt_dropInnermost_eq (s : Scopes) (k : Nat) :
    s.dropInnermost.definedAt k = if k + 1 < s.defined.length then s.definedAt k else [] := by
  split
  · rename_i hk
    exact definedAt_dropInnermost hk
  · rename_i hk
    refine definedAt_of_le ?_
    rw [List.length_dropLast]
    omega

end Scopes

namespace Session

open Scopes (target Call)
open Step (Aligned)

variable {s t u : Session} {n m : String} {d : Int} {isLocal : Bool} {k : Nat}

/-! ## Settings are never changed -/

@[simp] theorem settings_note (s : Session) (e : Event) : (s.note e).settings = s.settings := rfl

@[simp] theorem settings_warn (s : Session) (f : Finding) : (s.warn f).settings = s.settings := by
  unfold warn
  split <;> rfl

@[simp] theorem settings_retract (s : Session) (n : String) :
    (s.retract n).settings = s.settings := by
  simp only [retract]
  split <;> rfl

theorem settings_declare : (s.declare n d isLocal).2.settings = s.settings := by
  unfold declare
  split <;> simp

theorem settings_define : (s.define n d isLocal).2.settings = s.settings := by
  unfold define
  split <;> rfl

theorem settings_use : (s.use n d).2.settings = s.settings := by
  unfold use
  split
  · rfl
  · dsimp only
    split <;> simp

theorem settings_closeScope : s.closeScope.2.settings = s.settings := by
  unfold closeScope
  split <;> rfl

/-- No call changes the settings. -/
theorem settings_after (s : Session) (c : Call) : (s.after c).settings = s.settings := by
  cases c with
  | pop => exact settings_closeScope
  | define n depth isLocal =>
    rw [after]
    split
    · exact settings_define
    · rfl
  | use n depth =>
    rw [after]
    split
    · exact settings_use
    · rfl
  | declare n depth isLocal =>
    rw [after]
    split
    · exact settings_declare
    · rfl
  | _ => rfl

/-- **No walk changes the settings**: it comes down to requests, and none of them does. -/
theorem settings_performAll (d : Int) (steps : List Step) {s : Session} (h : s.scopes.Balanced) :
    (Step.performAll d steps s).2.settings = s.settings := by
  have hcalls : ∀ (calls : List Call) (t : Session), (t.afterAll calls).settings = t.settings := by
    intro calls
    induction calls with
    | nil => exact fun _ => rfl
    | cons c calls ih => exact fun t => (ih (t.after c)).trans (settings_after t c)
  rw [(Step.alike_performAll d steps h (Alike.refl s)).settings_eq, hcalls]

/-! ## Closing a scope -/

/-- A scope below the global one is closed, and the others stay as they are. -/
theorem scopes_closeScope_of_aligned (h : Aligned d s) (hd : 0 < d) :
    s.closeScope.2.scopes = s.scopes.dropInnermost := by
  have hdepth := h.depth_eq
  have hlength := h.balanced.depth_add_one
  rw [scopes_closeScope h.balanced, if_pos (by omega)]

/-- Once a scope is closed, what it defined is gone and nothing else. -/
theorem definedAt_closeScope (h : Aligned d s) (hd : 0 < d) :
    s.closeScope.2.scopes.definedAt k = if (k : Int) < d then s.scopes.definedAt k else [] := by
  have hdepth := h.depth_eq
  have hlength := h.balanced.depth_add_one
  have hiff : k + 1 < s.scopes.defined.length ↔ (k : Int) < d := by omega
  rw [scopes_closeScope_of_aligned h hd, Scopes.definedAt_dropInnermost_eq]
  simp only [hiff]

/-! ## Declarations and uses -/

/-- **A declaration makes a mark**: the name is visible already, or fresh. -/
theorem findings_declare_of_aligned (h : Aligned d s) :
    (s.declare n d isLocal).2.findings =
      (if s.scopes.Sees n (target d isLocal) then Mark.redefinition n else .fresh n).amend
        s.findings := by
  have hdeclare := findings_declare (n := n) (d := target d isLocal) h.balanced
  rw [if_pos (h.isOpen_target isLocal)] at hdeclare
  exact hdeclare

/-- **A use makes a mark** if the name is not visible. -/
theorem findings_use_of_aligned (h : Aligned d s) :
    (s.use n d).2.findings =
      if s.scopes.Sees n d then s.findings else (Mark.undefinedUse n).amend s.findings := by
  rw [findings_use h.balanced]
  by_cases hn : s.scopes.Sees n d <;> simp [hn, h.isOpen]

/-- A use leaves the definitions alone. -/
theorem definedAt_use (h : Aligned d s) :
    (s.use n d).2.scopes.definedAt k = s.scopes.definedAt k := by
  rw [scopes_use h.balanced, if_pos h.isOpen]
  rfl

/-! ## Definitions -/

/-- **Names were defined at a depth**, and nothing else was changed. -/
structure Defines (d : Int) (P : String → Prop) (s t : Session) : Prop where
  settings_eq : t.settings = s.settings
  used_eq : t.scopes.used = s.scopes.used
  findings_eq : t.findings = s.findings
  mem_iff : ∀ k m, m ∈ t.scopes.definedAt k ↔ m ∈ s.scopes.definedAt k ∨ (k : Int) = d ∧ P m

namespace Defines

variable {P Q : String → Prop}

theorem refl (d : Int) (s : Session) : Defines d (fun _ => False) s s :=
  ⟨rfl, rfl, rfl, by simp⟩

/-- The names that come to be defined may be told otherwise. -/
theorem congr (h : Defines d P s t) (hPQ : ∀ m, P m ↔ Q m) : Defines d Q s t :=
  ⟨h.settings_eq, h.used_eq, h.findings_eq, fun k m => by rw [h.mem_iff, hPQ m]⟩

/-- Names that come to be defined one after the other come to be defined. -/
theorem trans (h₁ : Defines d P s t) (h₂ : Defines d Q t u) :
    Defines d (fun m => P m ∨ Q m) s u where
  settings_eq := h₂.settings_eq.trans h₁.settings_eq
  used_eq := h₂.used_eq.trans h₁.used_eq
  findings_eq := h₂.findings_eq.trans h₁.findings_eq
  mem_iff k m := by
    rw [h₂.mem_iff, h₁.mem_iff, or_assoc, ← and_or_left]

/-- What is defined stays defined. -/
theorem mem (h : Defines d P s t) (hm : m ∈ s.scopes.definedAt k) : m ∈ t.scopes.definedAt k :=
  (h.mem_iff k m).2 (Or.inl hm)

/-- What is seen is what was seen, and what was defined no deeper. -/
theorem sees_iff {e : Int} (h : Defines d P s t) (hd : 0 ≤ d) :
    t.scopes.Sees m e ↔ s.scopes.Sees m e ∨ d ≤ e ∧ P m := by
  simp only [Scopes.Sees, h.mem_iff, and_or_left, exists_or]
  refine or_congr_right ⟨?_, fun ⟨hle, hm⟩ => ⟨d.toNat, by omega, by omega, hm⟩⟩
  rintro ⟨k, hle, rfl, hm⟩
  exact ⟨hle, hm⟩

end Defines

/-- Adding a name defines it. -/
theorem defines_addDefined {e : Event} (hk : k < s.scopes.defined.length) :
    Defines k (· = n) s { s.note e with scopes := s.scopes.addDefined k n } where
  settings_eq := rfl
  used_eq := rfl
  findings_eq := rfl
  mem_iff j m := by
    have hcast : (j : Int) = k ↔ j = k := Int.ofNat_inj
    rw [Scopes.mem_definedAt_addDefined hk, hcast]

/-- **A definition defines its name** at the depth it takes effect at. -/
theorem defines_define_of_isOpen (h : s.scopes.Balanced)
    (hd : s.scopes.IsOpen (target d isLocal)) (n : String) :
    Defines (target d isLocal) (· = n) s (s.define n d isLocal).2 := by
  obtain ⟨hnonneg, hlt⟩ := hd
  have hcast : ((target d isLocal).toNat : Int) = target d isLocal := Int.toNat_of_nonneg hnonneg
  have hadd := defines_addDefined (s := s) (n := n)
    (e := .defined n (target d isLocal).toNat) (k := (target d isLocal).toNat) (by omega)
  rw [hcast] at hadd
  rw [define_of_isOpen h ⟨hnonneg, hlt⟩]
  exact hadd

/-- A definition defines its name, locally or globally. -/
theorem defines_define (h : Aligned d s) (n : String) (isLocal : Bool) :
    Defines (target d isLocal) (· = n) s (s.define n d isLocal).2 :=
  defines_define_of_isOpen h.balanced (h.isOpen_target isLocal) n

/-- **An assignment defines its name** in the global scope, unless the name is visible. -/
theorem defines_assign_of_isOpen (h : s.scopes.Balanced) (hd : s.scopes.IsOpen d) (n : String) :
    Defines 0 (fun m => m = n ∧ ¬ s.scopes.Sees n d) s (s.assign n d).2 := by
  by_cases hn : s.scopes.Sees n d
  · -- the owner has the name already, so defining it there once more adds nothing
    obtain ⟨k, hk, hmem, heq⟩ := exists_assign_of_sees h hd hn
    have hopen : s.scopes.IsOpen (target k true) := hk
    have hsame : s.scopes.addDefined k n = s.scopes := Scopes.addDefined_of_mem hmem
    rw [heq, define_of_isOpen h hopen]
    change Defines 0 _ s { s.note _ with scopes := s.scopes.addDefined k n }
    rw [hsame]
    exact ⟨rfl, rfl, rfl, by simp [hn]⟩
  · have hopen : s.scopes.IsOpen (target 0 false) := h.isOpen_zero
    have hadd := defines_addDefined (s := s) (n := n) (e := .defined n 0) (k := 0) h.global
    rw [assign_of_not_sees h hd hn, define_of_isOpen h hopen]
    exact hadd.congr fun m => by simp [hn]

/-- An assignment defines its name globally, unless it can be seen. -/
theorem defines_assign (h : Aligned d s) (n : String) :
    Defines 0 (fun m => m = n ∧ ¬ s.scopes.Sees n d) s (s.assign n d).2 :=
  defines_assign_of_isOpen h.balanced h.isOpen n

/-- Definitions in a row define their names. -/
theorem defines_defineAll (names : List String) :
    ∀ {s : Session}, s.scopes.Balanced → s.scopes.IsOpen d →
      Defines d (· ∈ names) s (s.defineAll d names).2 := by
  induction names with
  | nil => exact fun {s} _ _ => (Defines.refl d s).congr (by simp)
  | cons n rest ih =>
    intro s h hd
    have hopen : s.scopes.IsOpen (target d true) := hd
    have hdef := defines_define_of_isOpen h hopen n
    have hframe : Scopes.Frame d s.scopes (s.define n d true).2.scopes := frame_define h
    rw [define_of_isOpen h hopen] at hdef hframe
    rw [defineAll, define_of_isOpen h hopen, Outcome.andThen_none]
    exact (hdef.trans (ih (hframe.balanced h) (hframe.isOpen hd))).congr fun m =>
      List.mem_cons.symm

/-! ## The start of a session -/

/-- So do those that a session starts with. -/
theorem defines_defineAllGlobals (names : List String) :
    ∀ {s : Session}, Aligned 0 s → Defines 0 (· ∈ names) s (start.defineAllGlobals names s) := by
  induction names with
  | nil => exact fun {s} _ => (Defines.refl 0 s).congr (by simp)
  | cons n rest ih =>
    intro s h
    have hdef := defines_define h n false
    have hframe : Scopes.Frame 0 s.scopes (s.define n 0 false).2.scopes := frame_define h.balanced
    exact (hdef.trans (ih (h.of_frame hframe))).congr fun m => List.mem_cons.symm

/-- **A session starts with the names taken for granted** in the global scope, and no others. -/
theorem mem_definedAt_start {settings : Settings} {tree : Value} :
    n ∈ (start settings tree).scopes.definedAt k ↔ k = 0 ∧ n ∈ settings.globals := by
  let blank : Session :=
    { settings, tree, scopes := .initial, findings := [], walked := false, traced := false,
      events := [] }
  have hblank : Aligned 0 blank := ⟨⟨rfl, Nat.one_pos⟩, rfl⟩
  have hempty : Scopes.initial.definedAt k = [] := by
    rcases k with _ | k <;> rfl
  have hstart := (defines_defineAllGlobals settings.globals hblank).mem_iff k n
  change n ∈ (start settings tree).scopes.definedAt k ↔
    n ∈ Scopes.initial.definedAt k ∨ (k : Int) = 0 ∧ n ∈ settings.globals at hstart
  rw [hstart, hempty]
  simp

end Session

end DefUse
