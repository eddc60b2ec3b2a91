import DefUse.Check.Session
import DefUse.Proofs.Scope.Laws

/-!
# Proofs/Check/Laws — what each operation does to a session

An operation on balanced scopes is decided by one question, whether a scope is open at the depth it
takes effect at.  If one is, the operation succeeds and the law named `…_of_isOpen` gives the
session after it; if none is, it fails and leaves the session as it was (`…_of_not_isOpen`).

Opening a scope and closing it again is the business of functions: `perform_function` says when a
function body is carried out and `perform_function_of_ne` what happens when it is not.
-/

namespace DefUse

open Scopes (target)

/-! ## Going on after an operation -/

namespace Outcome

@[simp] theorem andThen_none (s : Session) (next : Session → Outcome) :
    andThen (none, s) next = next s := rfl

/-- What holds after an operation, and is kept by what goes on, holds in the end. -/
theorem snd_andThen {motive : Session → Prop} {o : Outcome} {next : Session → Outcome}
    (h : motive o.2) (hnext : ∀ t, o = (none, t) → motive t → motive (next t).2) :
    motive (o.andThen next).2 := by
  obtain ⟨_ | f, t⟩ := o
  · exact hnext t rfl h
  · exact h

end Outcome

namespace Session

variable {s : Session} {n : String} {d : Int} {isLocal : Bool}

/-! ## Findings leave the scopes alone -/

@[simp] theorem scopes_note (s : Session) (e : Event) : (s.note e).scopes = s.scopes := rfl

@[simp] theorem findings_note (s : Session) (e : Event) : (s.note e).findings = s.findings := rfl

@[simp] theorem scopes_warn (s : Session) (f : Finding) : (s.warn f).scopes = s.scopes := by
  unfold warn
  split <;> rfl

@[simp] theorem scopes_retract (s : Session) (n : String) : (s.retract n).scopes = s.scopes := by
  simp only [retract]
  split <;> rfl

/-! ## Declaring, defining and using -/

/-- **A declaration at an open depth** warns of a name that can be seen there, and retracts uses of
one that cannot. -/
theorem declare_of_isOpen (h : s.scopes.Balanced) (hd : s.scopes.IsOpen (target d isLocal)) :
    s.declare n d isLocal =
      (none, if s.scopes.Sees n (target d isLocal) then s.warn ⟨.redefinition, n⟩
        else s.retract n) := by
  rw [declare, Scopes.declares, h.visible_eq_ok hd]
  by_cases hn : s.scopes.Sees n (target d isLocal) <;> simp [hn]

/-- At any other depth it fails and changes nothing. -/
theorem declare_of_not_isOpen (hd : ¬ s.scopes.IsOpen (target d isLocal)) :
    ∃ f, s.declare n d isLocal = (some f, s) := by
  obtain ⟨f, hf⟩ := Scopes.exists_level_eq_error hd
  exact ⟨f, by simp [declare, Scopes.declares, Scopes.visible, Scopes.find, hf, Except.map]⟩

/-- **A definition at an open depth** adds the name to the scope there. -/
theorem define_of_isOpen (h : s.scopes.Balanced) (hd : s.scopes.IsOpen (target d isLocal)) :
    s.define n d isLocal =
      (none, { s.note (.defined n (target d isLocal).toNat) with
        scopes := s.scopes.addDefined (target d isLocal).toNat n }) := by
  rw [define, Scopes.define_eq_ok_iff.2 ⟨h.level_eq_ok hd, rfl⟩]

/-- At any other depth it fails and changes nothing. -/
theorem define_of_not_isOpen (hd : ¬ s.scopes.IsOpen (target d isLocal)) :
    ∃ f, s.define n d isLocal = (some f, s) := by
  obtain ⟨f, hf⟩ := Scopes.exists_level_eq_error hd
  exact ⟨f, by simp [define, Scopes.define, hf, Except.map]⟩

/-- The session after the use of a name is recorded, before anything is reported. -/
abbrev recordUse (s : Session) (n : String) (d : Int) : Session :=
  { s.note (.used n d (s.scopes.Sees n d)) with scopes := s.scopes.addUsed d.toNat n }

/-- **A use at an open depth** is recorded, with a warning if the name cannot be seen. -/
theorem use_of_isOpen (h : s.scopes.Balanced) (hd : s.scopes.IsOpen d) :
    s.use n d =
      (none, if s.scopes.Sees n d then s.recordUse n d
        else (s.recordUse n d).warn ⟨.undefinedUse, n⟩) := by
  have hseen := Scopes.isSome_owner?_toNat (s := s.scopes) (n := n) hd.1
  rw [use, Scopes.use_eq_ok_iff.2 ⟨_, h.level_eq_ok hd, hseen, rfl⟩]
  simp only [decide_eq_true_eq]

/-- At any other depth it fails and changes nothing. -/
theorem use_of_not_isOpen (hd : ¬ s.scopes.IsOpen d) : ∃ f, s.use n d = (some f, s) := by
  obtain ⟨f, hf⟩ := Scopes.exists_level_eq_error hd
  exact ⟨f, by simp [use, Scopes.use, hf, Except.map]⟩

/-- What an operation does to the scopes, whether it succeeds or fails. -/
theorem scopes_define (h : s.scopes.Balanced) :
    (s.define n d isLocal).2.scopes =
      if s.scopes.IsOpen (target d isLocal) then s.scopes.addDefined (target d isLocal).toNat n
      else s.scopes := by
  split
  · rw [define_of_isOpen h ‹_›]
  · obtain ⟨f, hf⟩ := define_of_not_isOpen (n := n) ‹¬ s.scopes.IsOpen (target d isLocal)›
    rw [hf]

/-- All that a use changes of the scopes is what is used. -/
theorem scopes_use (h : s.scopes.Balanced) :
    (s.use n d).2.scopes =
      if s.scopes.IsOpen d then s.scopes.addUsed d.toNat n else s.scopes := by
  split
  · rw [use_of_isOpen h ‹_›]
    dsimp only
    split <;> simp
  · obtain ⟨f, hf⟩ := use_of_not_isOpen (n := n) ‹¬ s.scopes.IsOpen d›
    rw [hf]

/-- A declaration changes no scope. -/
theorem scopes_declare : (s.declare n d isLocal).2.scopes = s.scopes := by
  unfold declare
  split <;> simp

/-! ## Assigning

A name that is seen is defined again where it is owned, which changes nothing there. -/

/-- Assigning to a name that cannot be seen defines it globally. -/
theorem assign_of_not_sees (h : s.scopes.Balanced) (hd : s.scopes.IsOpen d)
    (hn : ¬ s.scopes.Sees n d) : s.assign n d = s.define n 0 false := by
  have hown : s.scopes.owner? n d.toNat = none := by
    rw [← Option.not_isSome_iff_eq_none, Scopes.isSome_owner?_iff, Int.toNat_of_nonneg hd.1]
    exact hn
  rw [assign, Scopes.find_eq_ok_iff.2 ⟨_, h.level_eq_ok hd, hown⟩]

/-- The owner an assignment finds is open and defines the name already. -/
theorem exists_assign_of_sees (h : s.scopes.Balanced) (hd : s.scopes.IsOpen d)
    (hn : s.scopes.Sees n d) :
    ∃ k : Nat, s.scopes.IsOpen k ∧ n ∈ s.scopes.definedAt k ∧ s.assign n d = s.define n k true := by
  rw [← Int.toNat_of_nonneg hd.1, ← Scopes.isSome_owner?_iff, Option.isSome_iff_exists] at hn
  obtain ⟨k, hk⟩ := hn
  obtain ⟨hle, hmem⟩ := Scopes.owner?_eq_some hk
  obtain ⟨h0, hlt⟩ := hd
  refine ⟨k, ⟨Int.natCast_nonneg k, by omega⟩, hmem, ?_⟩
  rw [assign, Scopes.find_eq_ok_iff.2 ⟨_, h.level_eq_ok ⟨h0, hlt⟩, hk⟩]

theorem assign_of_not_isOpen (hd : ¬ s.scopes.IsOpen d) : ∃ f, s.assign n d = (some f, s) := by
  obtain ⟨f, hf⟩ := Scopes.exists_level_eq_error hd
  exact ⟨f, by simp [assign, Scopes.find, hf, Except.map]⟩

/-- **An assignment defines a name that is not seen in the global scope**, and nothing else. -/
theorem assign_of_isOpen (h : s.scopes.Balanced) (hd : s.scopes.IsOpen d) :
    (s.assign n d).1 = none ∧
      (s.assign n d).2.scopes =
        if s.scopes.Sees n d then s.scopes else s.scopes.addDefined 0 n := by
  by_cases hn : s.scopes.Sees n d
  · obtain ⟨k, hk, hmem, heq⟩ := exists_assign_of_sees h hd hn
    have hopen : s.scopes.IsOpen (target k true) := hk
    rw [heq, define_of_isOpen h hopen, if_pos hn]
    exact ⟨rfl, Scopes.addDefined_of_mem hmem⟩
  · have hopen : s.scopes.IsOpen (target 0 false) := h.isOpen_zero
    rw [assign_of_not_sees h hd hn, define_of_isOpen h hopen, if_neg hn]
    exact ⟨rfl, rfl⟩

/-! ## Deriving members -/

/-- The members a name gains can be told wherever a scope is open. -/
theorem exists_derivedMembers (h : s.scopes.Balanced) (hd : s.scopes.IsOpen d)
    (name callee : String) : ∃ members, s.derivedMembers name callee d = .ok members := by
  unfold derivedMembers
  cases cloneSource? s.settings callee with
  | none => exact ⟨_, rfl⟩
  | some source =>
    simp only [Scopes.members, h.level_eq_ok hd]
    exact ⟨_, rfl⟩

/-! ## Opening and closing scopes -/

@[simp] theorem scopes_openScope (s : Session) : s.openScope.scopes = s.scopes.push := rfl

/-- An inner scope is closed. -/
theorem closeScope_of_lt (h : s.scopes.Balanced) (hlt : 1 < s.scopes.defined.length) :
    s.closeScope =
      (none, { s.note (.closed s.scopes.depth) with scopes := s.scopes.dropInnermost }) := by
  rw [closeScope, h.pop_eq hlt]

/-- The global scope is not. -/
theorem closeScope_of_le (hle : s.scopes.defined.length ≤ 1) :
    s.closeScope = (some .globalScope, s) := by
  rw [closeScope, Scopes.pop_of_length_le hle]

/-- The innermost scope is all that closing a scope takes away. -/
theorem scopes_closeScope (h : s.scopes.Balanced) :
    s.closeScope.2.scopes =
      if 1 < s.scopes.defined.length then s.scopes.dropInnermost else s.scopes := by
  split
  · rw [closeScope_of_lt h ‹_›]
  · rw [closeScope_of_le (by omega)]

/-- The session after a scope that is left was looked at. -/
def lookedBack (s : Session) (inner : Nat) : Session :=
  if s.traced then s.note (.left (s.scopes.counts inner)) else s

@[simp] theorem scopes_lookedBack (s : Session) (inner : Nat) :
    (s.lookedBack inner).scopes = s.scopes := by
  unfold lookedBack
  split <;> rfl

/-- **A scope that is open can be looked at.** -/
theorem lookBack_of_isOpen {inner : Nat} (h : s.scopes.Balanced) (hin : s.scopes.IsOpen inner) :
    s.lookBack inner = (none, s.lookedBack inner) := by
  unfold lookBack lookedBack
  split
  · rw [Scopes.snapshot, h.level_eq_ok hin]
    rfl
  · rfl

/-- A function whose scope is open is left by looking back at it and closing it. -/
theorem snd_leave_of_isOpen {o : Outcome} {inner : Nat} (h : o.2.scopes.Balanced)
    (hin : o.2.scopes.IsOpen inner) :
    (leave inner o).2 = (o.2.lookedBack inner).closeScope.2 := by
  simp only [leave, lookBack_of_isOpen h hin]

/-- The session after a scope was looked at and the innermost one closed. -/
def left (s : Session) (inner : Nat) : Session :=
  { (s.lookedBack inner).note (.closed s.scopes.depth) with scopes := s.scopes.dropInnermost }

/-- **Leaving a function** whose scope is open looks at the scope and closes it.  It fails only if
the body did. -/
theorem leave_of_isOpen {o : Outcome} {inner : Nat} (h : o.2.scopes.Balanced)
    (hin : o.2.scopes.IsOpen inner) (hpos : 0 < inner) :
    leave inner o = (o.1, o.2.left inner) := by
  have hlt : 1 < (o.2.lookedBack inner).scopes.defined.length := by
    have := hin.2
    rw [scopes_lookedBack]
    omega
  have hback : (o.2.lookedBack inner).scopes.Balanced := by rwa [scopes_lookedBack]
  simp only [leave, left, lookBack_of_isOpen h hin, closeScope_of_lt hback hlt, Option.none_or,
    scopes_lookedBack]

/-! ## The start of a session -/

/-- **What a session starts with** is got by defining the names taken for granted one by one. -/
theorem start_induction {motive : Session → Prop} {settings : Settings} {tree : Value}
    (blank : motive
      { settings, tree, scopes := .initial, findings := [], walked := false, traced := false,
        events := [] })
    (define : ∀ s n, n ∈ settings.globals → motive s → motive (s.define n 0 false).2) :
    motive (start settings tree) := by
  have key : ∀ names : List String, (∀ n ∈ names, n ∈ settings.globals) →
      ∀ s, motive s → motive (start.defineAllGlobals names s) := by
    intro names
    induction names with
    | nil => exact fun _ _ h => h
    | cons n rest ih =>
      intro hnames s h
      exact ih (fun m hm => hnames m (List.mem_cons_of_mem n hm)) _
        (define s n (hnames n List.mem_cons_self) h)
  exact key settings.globals (fun _ h => h) _ blank

/-- A session starts with the global scope alone, nothing found, nothing walked and no trace asked
for. -/
structure Fresh (settings : Settings) (tree : Value) (s : Session) : Prop where
  settings_eq : s.settings = settings
  tree_eq : s.tree = tree
  definedLength : s.scopes.defined.length = 1
  used_eq : s.scopes.used = [[]]
  findings_eq : s.findings = []
  walked_eq : s.walked = false
  traced_eq : s.traced = false

/-- A fresh session has as many scopes of used names as of defined ones. -/
theorem Fresh.balanced {settings : Settings} {tree : Value} (h : Fresh settings tree s) :
    s.scopes.Balanced :=
  ⟨by rw [h.definedLength, h.used_eq]; rfl, by rw [h.definedLength]; exact Nat.one_pos⟩

/-- A session is fresh at its start. -/
theorem fresh_start (settings : Settings) (tree : Value) :
    Fresh settings tree (start settings tree) := by
  refine start_induction ⟨rfl, rfl, rfl, rfl, rfl, rfl, rfl⟩ fun s n _ h => ?_
  have hopen : s.scopes.IsOpen (target 0 false) := h.balanced.isOpen_zero
  rw [define_of_isOpen h.balanced hopen]
  exact ⟨h.settings_eq, h.tree_eq, by simpa using h.definedLength, h.used_eq, h.findings_eq,
    h.walked_eq, h.traced_eq⟩

end Session

namespace Step

variable {s : Session} {d : Int} {body : List Step}

/-- **A function right below the innermost scope** has its body carried out in a scope of its
own. -/
theorem perform_function (h : s.scopes.Balanced) (hd : (s.scopes.depth : Int) = d) :
    (Step.function body).perform d s =
      Session.leave s.scopes.defined.length
        (performAll s.scopes.defined.length body s.openScope) := by
  have hinner : ((s.scopes.defined.length : Nat) : Int) = d + 1 := by
    have := h.depth_add_one
    omega
  simp only [perform, Session.scopes_openScope, Scopes.depth_push, if_pos hinner]

/-- A function anywhere else is refused, and the scope opened for it is closed again. -/
theorem perform_function_of_ne (h : s.scopes.Balanced) (hd : (s.scopes.depth : Int) ≠ d) :
    ((Step.function body).perform d s).1 =
        some (.misplacedScope d (s.scopes.defined.length : Nat)) ∧
      ((Step.function body).perform d s).2.scopes = s.scopes := by
  have hinner : ¬ ((s.scopes.defined.length : Nat) : Int) = d + 1 := by
    have := h.depth_add_one
    omega
  have hlt : 1 < s.openScope.scopes.defined.length := by
    have := h.global
    simpa [Scopes.push] using this
  have hclose := Session.closeScope_of_lt (s := s.openScope) h.push hlt
  simp only [perform, Session.scopes_openScope, Scopes.depth_push, if_neg hinner, hclose]
  exact ⟨rfl, Scopes.dropInnermost_push s.scopes⟩

end Step

end DefUse
