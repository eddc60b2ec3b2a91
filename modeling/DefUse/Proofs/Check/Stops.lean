import DefUse.Proofs.Check.Frame
import DefUse.Proofs.Check.Rules

/-!
# Proofs/Check/Stops — why a walk fails

Steps say where the walk has to stop, function bodies included (`Step.stopsAll`).  A walk whose
depth is that of the innermost scope fails at the first of these stops and nowhere else
(`failure_performAll`): every request it makes is granted.  So whether a walk fails, and with what,
is a matter of its steps alone.

`harmless_blockSteps` adds what the stops of a tree are about: never about the scopes.
-/

namespace DefUse

namespace Step

mutual

/-- The failures a step stops with, the ones in a function body included, in order. -/
def stops : Step → List Failure
  | .stop f => [f]
  | .function body => stopsAll body
  | .enter _ | .ignore _ | .declare _ _ | .define _ _ | .use _ | .assign _ | .derive _ _ => []

/-- **The failures that steps stop with**, in order. -/
def stopsAll : List Step → List Failure
  | [] => []
  | step :: rest => step.stops ++ stopsAll rest

end

@[simp] theorem stopsAll_nil : stopsAll [] = [] := by rw [stopsAll]

@[simp] theorem stopsAll_cons (step : Step) (rest : List Step) :
    stopsAll (step :: rest) = step.stops ++ stopsAll rest := by rw [stopsAll]

/-- The stops of steps in a row are in a row. -/
@[simp] theorem stopsAll_append (steps rest : List Step) :
    stopsAll (steps ++ rest) = stopsAll steps ++ stopsAll rest := by
  induction steps with
  | nil => simp
  | cons step steps ih => simp [ih]

@[simp] theorem stopsAll_flatMap {α : Type} (items : List α) (steps : α → List Step) :
    stopsAll (items.flatMap steps) = items.flatMap fun w => stopsAll (steps w) := by
  induction items with
  | nil => simp
  | cons w items ih => simp [ih]

@[simp] theorem stopsAll_map {α : Type} (items : List α) (step : α → Step) :
    stopsAll (items.map step) = items.flatMap fun w => (step w).stops := by
  induction items with
  | nil => simp
  | cons w items ih => simp [ih]

/-- What all stops of some steps have in common. -/
def AllStops (P : Failure → Prop) (steps : List Step) : Prop := ∀ f ∈ stopsAll steps, P f

namespace AllStops

variable {P : Failure → Prop} {steps rest : List Step}

/-- Steps without stops have none to say anything of. -/
theorem of_clear (h : stopsAll steps = []) : AllStops P steps := by simp [AllStops, h]

theorem stop {f : Failure} (h : P f) : AllStops P [.stop f] := by simpa [AllStops, stops] using h

theorem append (h : AllStops P steps) (hrest : AllStops P rest) : AllStops P (steps ++ rest) := by
  intro f hf
  rw [stopsAll_append, List.mem_append] at hf
  exact hf.elim (h f) (hrest f)

/-- The stops of a function are those of its body. -/
theorem function (h : AllStops P steps) : AllStops P [.function steps] := by
  simpa [AllStops, stops] using h

theorem flatMap {α : Type} {items : List α} {steps : α → List Step}
    (h : ∀ w ∈ items, AllStops P (steps w)) : AllStops P (items.flatMap steps) := by
  intro f hf
  rw [stopsAll_flatMap, List.mem_flatMap] at hf
  obtain ⟨w, hw, hf⟩ := hf
  exact h w hw f hf

theorem map {α : Type} {items : List α} {step : α → Step}
    (h : ∀ w ∈ items, AllStops P [step w]) : AllStops P (items.map step) := by
  rw [List.map_eq_flatMap]
  exact .flatMap h

end AllStops

/-! ## The walk fails at its first stop -/

/-- **A session is aligned with a depth** if that is the depth of its innermost scope. -/
structure Aligned (d : Int) (s : Session) : Prop where
  balanced : s.scopes.Balanced
  depth_eq : (s.scopes.depth : Int) = d

namespace Aligned

variable {d : Int} {s t : Session}

/-- The depth that a session is aligned with is open. -/
theorem isOpen (h : Aligned d s) : s.scopes.IsOpen d := h.depth_eq ▸ h.balanced.isOpen_depth

/-- The depth a declaration takes effect at is open too. -/
theorem isOpen_target (h : Aligned d s) (isLocal : Bool) :
    s.scopes.IsOpen (Scopes.target d isLocal) := by
  cases isLocal with
  | false => exact h.balanced.isOpen_zero
  | true => exact h.isOpen

/-- A session stays aligned while its scopes keep their frame. -/
theorem of_frame {e : Int} (h : Aligned d s) (hf : Scopes.Frame e s.scopes t.scopes) :
    Aligned d t :=
  ⟨hf.balanced h.balanced, by rw [hf.depth_eq]; exact h.depth_eq⟩

theorem lookedBack (h : Aligned d s) (inner : Nat) : Aligned d (s.lookedBack inner) :=
  ⟨by rw [Session.scopes_lookedBack]; exact h.balanced,
    by rw [Session.scopes_lookedBack]; exact h.depth_eq⟩

/-- The body of a function starts aligned with the scope opened for it. -/
theorem openScope (h : Aligned d s) : Aligned s.scopes.defined.length s.openScope :=
  ⟨h.balanced.push, by rw [Session.scopes_openScope, Scopes.depth_push]⟩

end Aligned

/-- A failure after an operation that succeeds is that of what goes on. -/
theorem failure_andThen {o : Outcome} {next : Session → Outcome} {stop : Option Failure}
    {rest : Option Failure} (ho : o.1 = stop)
    (hnext : ∀ t, o = (none, t) → (next t).1 = rest) : (o.andThen next).1 = stop.or rest := by
  obtain ⟨_ | f, t⟩ := o
  · obtain rfl : none = stop := ho
    exact hnext t rfl
  · obtain rfl : some f = stop := ho
    rfl

mutual

/-- A step of an aligned walk fails at its first stop. -/
theorem failure_perform (d : Int) :
    ∀ (step : Step) (s : Session), Aligned d s → (step.perform d s).1 = step.stops.head?
  | .enter _, _, _ => by rw [perform, stops]; rfl
  | .ignore _, _, _ => by rw [perform, stops]; rfl
  | .stop _, _, _ => by rw [perform, stops]; rfl
  | .declare n isLocal, s, h => by
    rw [perform, stops, Session.declare_of_isOpen h.balanced (h.isOpen_target isLocal)]
    rfl
  | .define n isLocal, s, h => by
    rw [perform, stops, Session.define_of_isOpen h.balanced (h.isOpen_target isLocal)]
    rfl
  | .use n, s, h => by
    rw [perform, stops, Session.use_of_isOpen h.balanced h.isOpen]
    rfl
  | .assign n, s, h => by
    rw [perform, stops, (Session.assign_of_isOpen h.balanced h.isOpen).1]
    rfl
  | .derive n callee, s, h => by
    rw [perform, stops, Session.failure_derive h.balanced h.isOpen]
    rfl
  | .function body, s, h => by
    -- the scope opened for the body is there to be looked at and closed, so leaving adds no failure
    have hbody := failure_performAll s.scopes.defined.length body s.openScope h.openScope
    have hframe := frame_performAll s.scopes.defined.length body s.openScope h.balanced.push
    rw [perform_function h.balanced h.depth_eq, stops, leave_of_frame h.balanced hframe, hbody]

/-- **An aligned walk fails at its first stop**, and succeeds if there is none. -/
theorem failure_performAll (d : Int) :
    ∀ (steps : List Step) (s : Session), Aligned d s →
      (performAll d steps s).1 = (stopsAll steps).head?
  | [], _, _ => by rw [performAll, stopsAll]; rfl
  | step :: rest, s, h => by
    rw [performAll, stopsAll, List.head?_append]
    refine failure_andThen (failure_perform d step s h) fun t ht => ?_
    have hframe := frame_perform d step s h.balanced
    rw [ht] at hframe
    exact failure_performAll d rest t (h.of_frame hframe)

end

end Step

/-! ## The stops of a tree -/

/-- **A failure of the bookkeeping**: it is about the scopes and the depth of a request, not about
the tree. -/
def Failure.isInternal : Failure → Bool
  | depthNotANumber _ | depthNotOpen _ _ | globalScope | outOfStep _ _ | misplacedScope _ _
  | noUsesLeft => true
  | _ => false

/-- Steps none of whose stops is about the bookkeeping. -/
abbrev Harmless (steps : List Step) : Prop := Step.AllStops (·.isInternal = false) steps

/-- Steps for each item of a field are harmless if those for smaller values are. -/
theorem harmless_stepsAt {v : Value} {steps : Value → List Step} {key : String}
    (h : ∀ w, w.size < v.size → Harmless (steps w)) : Harmless (stepsAt steps key v) := by
  unfold stepsAt
  split
  · exact .stop rfl
  · rename_i items hitems
    exact .flatMap fun w hw => h w (Value.size_itemsAt_lt key hitems hw)

variable {v : Value} {f : Failure}

/-- A name that cannot be joined is the fault of the tree. -/
theorem isInternal_of_joinedName (h : joinedName v = .error f) : f.isInternal = false := by
  induction v using Value.sizeInduction with
  | step v ih =>
    have hrule := nameRule v
    rw [h] at hrule
    generalize hr : Except.error f = result at hrule
    cases hrule with
    | identifier => cases hr
    | nameless => cases hr; rfl
    | unknownIndexer => cases hr; rfl
    | other => cases hr
    | member hk hs =>
      rcases joinLinks_eq_error hr.symm with hb | hl
      · exact ih _ (size_field_lt_of_kind hk "base") hb
      · exact ih _ (size_field_lt_of_kind hk "identifier") hl

/-- A name that is missing is a fault of the tree. -/
theorem isInternal_of_requireName {place : Place} (h : requireName place v = .error f) :
    f.isInternal = false := by
  unfold requireName at h
  cases hn : joinedName v with
  | error g =>
    rw [hn] at h
    cases h
    exact isInternal_of_joinedName hn
  | ok name =>
    rw [hn] at h
    cases name <;> cases h
    rfl

/-- So is one of several. -/
theorem isInternal_of_requireNames {place : Place} {items : List Value}
    (h : requireNames place items = .error f) : f.isInternal = false := by
  induction items with
  | nil => cases h
  | cons w rest ih =>
    rw [requireNames] at h
    cases hw : requireName place w with
    | error g =>
      rw [hw] at h
      cases h
      exact isInternal_of_requireName hw
    | ok n =>
      rw [hw] at h
      cases hrest : requireNames place rest with
      | error g =>
        rw [hrest] at h
        cases h
        exact ih hrest
      | ok names =>
        rw [hrest] at h
        cases h

/-- A step that needs a name stops, if it does, because of the tree. -/
theorem harmless_ofName {place : Place} {step : String → Step}
    (hstep : ∀ n, (step n).stops = []) : Harmless [.ofName step (requireName place v)] := by
  cases hn : requireName place v with
  | error g => exact .stop (isInternal_of_requireName hn)
  | ok n => exact .of_clear (by simp [Step.ofName, hstep])

/-! ### Expressions -/

/-- An operand is harmless if it is so as an expression. -/
theorem harmless_operandSteps (h : Harmless (expressionSteps v)) : Harmless (operandSteps v) := by
  by_cases hi : Ignored v
  · rw [operandSteps_of_ignored hi]
    exact .of_clear (by simp [Step.stops])
  · rw [operandSteps_of_not_ignored hi]
    exact h

/-- One rule of expressions stops for no internal reason, given that smaller expressions do not. -/
theorem harmless_of_expressionRule {steps : List Step}
    (ih : ∀ w, w.size < v.size → Harmless (expressionSteps w)) (hrule : ExpressionRule v steps) :
    Harmless steps := by
  cases hrule with
  | value => exact .stop rfl
  | fault h => exact .stop (isInternal_of_joinedName h)
  | name => exact .of_clear (by simp [Step.stops])
  | call hk => exact .append (ih _ (size_field_lt_of_kind hk "base")) (harmless_stepsAt ih)
  | notAKey => exact .stop rfl
  | literal => exact .of_clear Step.stopsAll_nil
  | binary hk =>
    exact .append (harmless_operandSteps (ih _ (size_field_lt_of_kind hk "left")))
      (harmless_operandSteps (ih _ (size_field_lt_of_kind hk "right")))
  | unary hk => exact ih _ (size_field_lt_of_kind hk "argument")
  | member => exact .stop rfl
  | unknown => exact .stop rfl

/-- **Expressions are harmless.**  By induction on their size. -/
theorem harmless_expressionSteps (v : Value) : Harmless (expressionSteps v) := by
  induction v using Value.sizeInduction with
  | step v ih => exact harmless_of_expressionRule ih (expressionRule v)

/-! ### Statements -/

/-- Deriving members is harmless. -/
theorem harmless_derivedSteps (names : List String) (value : Value) :
    Harmless (derivedSteps names value) := by
  unfold derivedSteps
  split
  · rename_i f hf
    unfold calleeOf at hf
    split at hf
    · exact .stop (isInternal_of_joinedName hf)
    · cases hf
  · exact .of_clear Step.stopsAll_nil
  · exact .of_clear (by simp [Step.stops])

theorem harmless_initialSteps (names : List String) (v : Value) :
    Harmless (initialSteps names v) := by
  unfold initialSteps
  split
  · exact .of_clear Step.stopsAll_nil
  · exact .stop rfl
  · exact harmless_derivedSteps names _
  · exact .of_clear Step.stopsAll_nil

/-- A local statement is harmless. -/
theorem harmless_localSteps (v : Value) : Harmless (localSteps v) := by
  unfold localSteps
  split
  · rename_i f hf
    unfold localNames at hf
    split at hf
    · cases hf
      exact .stop rfl
    · exact .stop (isInternal_of_requireNames hf)
  · rename_i names _
    have hnames : Harmless (names.flatMap fun n => [.declare n true, .define n true]) := by
      exact .of_clear (by simp [Step.stops])
    exact .append (.append hnames (harmless_initialSteps names v))
      (harmless_stepsAt fun w _ => harmless_expressionSteps w)

/-- So is an assignment. -/
theorem harmless_assignmentSteps (v : Value) : Harmless (assignmentSteps v) := by
  unfold assignmentSteps
  split
  · exact .stop rfl
  · exact .map fun w _ => harmless_ofName fun n => by rw [Step.stops]

theorem harmless_functionNameSteps (v : Value) : Harmless (functionNameSteps v) := by
  unfold functionNameSteps
  dsimp only
  split
  · exact .of_clear Step.stopsAll_nil
  · split
    · exact .of_clear (by simp [Step.stops])
    · exact .stop (isInternal_of_requireName ‹_›)

/-- So are parameters. -/
theorem harmless_parameterSteps (v : Value) : Harmless (parameterSteps v) := by
  unfold parameterSteps
  refine .append ?_ ?_
  · split <;> exact .of_clear (by simp [Step.stops])
  · split
    · exact .stop rfl
    · exact .map fun w _ => harmless_ofName fun n => by rw [Step.stops]

/-- A clause is if its block is. -/
theorem harmless_clauseSteps (h : Harmless (blockSteps v)) : Harmless (clauseSteps v) := by
  cases hr : v.isRecord with
  | false =>
    rw [clauseSteps_of_not_isRecord hr]
    exact .stop rfl
  | true =>
    rw [clauseSteps_of_isRecord hr]
    refine .append ?_ h
    split
    · exact .of_clear Step.stopsAll_nil
    · exact harmless_expressionSteps _

/-- One rule of statements stops for no internal reason, given that the blocks of the statement and
of everything smaller do not. -/
theorem harmless_of_statementRule {steps : List Step}
    (ih : ∀ w, w.size ≤ v.size → Harmless (blockSteps w)) (hrule : StatementRule v steps) :
    Harmless steps := by
  cases hrule with
  | localNames => exact harmless_localSteps v
  | assignment => exact harmless_assignmentSteps v
  | function =>
    have hbody := (harmless_parameterSteps v).append (ih v (Nat.le_refl _))
    exact (harmless_functionNameSteps v).append hbody.function
  | call => exact harmless_expressionSteps _
  | choice => exact harmless_stepsAt fun w hw => harmless_clauseSteps (ih w (Nat.le_of_lt hw))
  | result => exact harmless_stepsAt fun w _ => harmless_expressionSteps w
  | unknown => exact .stop rfl

/-- **The stops of a tree are never about the bookkeeping.** -/
theorem harmless_blockSteps (v : Value) : Harmless (blockSteps v) := by
  induction v using Value.sizeInduction with
  | step v ih =>
    have hrule := blockRule v
    generalize blockSteps v = steps at hrule
    cases hrule with
    | noBody => exact .stop rfl
    | @body items h =>
      refine .flatMap fun w hw => ?_
      have hlt : w.size < v.size := Value.size_itemsAt_lt "body" (by rw [Value.itemsAt?, h]; rfl) hw
      obtain ⟨rest, hrest, hstmt⟩ := statementRule w
      have henter : Harmless [.enter (kindOf w)] := .of_clear (by simp [Step.stops])
      rw [hrest]
      exact henter.append
        (harmless_of_statementRule (fun u hu => ih u (Nat.lt_of_le_of_lt hu hlt)) hstmt)

end DefUse
