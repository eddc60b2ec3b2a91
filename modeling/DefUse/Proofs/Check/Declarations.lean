import DefUse.Proofs.Check.Expressions
import DefUse.Proofs.Check.Granted
import DefUse.Proofs.Check.Handles

/-!
# Proofs/Check/Declarations — the names a tree declares, and those taken for granted among them

Which declarations a walk makes is a matter of its tree.  `blockDeclarations` lists the names that a
tree declares, by kinds alone.  Steps **announce** names if these are what they declare, in order
and as far as they are carried out; `announces_blockSteps` says that a block announces the names its
statements declare.

A name taken for granted is in the global scope from the start.  So a run never reports a use of it,
and reports each of its declarations (`Session.verify_global_name`).
-/

namespace DefUse

open Scopes (Call)
open Step (Aligned)

/-! ## The names a tree declares -/

/-- **The names that the statements of a node declare**, from first to last and at any nesting: the
variables of local declarations and the names of functions. -/
def blockDeclarations (v : Value) : List String :=
  (v.itemsAt "body").attach.flatMap fun w =>
    if (kindOf w.1).isText "LocalStatement" then (w.1.itemsAt "variables").filterMap chainName?
    else if (kindOf w.1).isText "FunctionDeclaration" then
      (chainName? (w.1.field "identifier")).toList ++ blockDeclarations w.1
    else if (kindOf w.1).isText "IfStatement" then
      (w.1.itemsAt "clauses").attach.flatMap fun u => blockDeclarations u.1
    else []
termination_by v.size
decreasing_by
  · exact Value.size_lt_of_mem_itemsAt w.2
  · exact (Value.size_lt_of_mem_itemsAt u.2).trans (Value.size_lt_of_mem_itemsAt w.2)

/-- The names that a statement declares. -/
def statementDeclarations (v : Value) : List String :=
  if (kindOf v).isText "LocalStatement" then (v.itemsAt "variables").filterMap chainName?
  else if (kindOf v).isText "FunctionDeclaration" then
    (chainName? (v.field "identifier")).toList ++ blockDeclarations v
  else if (kindOf v).isText "IfStatement" then (v.itemsAt "clauses").flatMap blockDeclarations
  else []

theorem blockDeclarations_eq (v : Value) :
    blockDeclarations v = (v.itemsAt "body").flatMap statementDeclarations := by
  rw [blockDeclarations, ← flatMap_attach (v.itemsAt "body") statementDeclarations]
  refine List.flatMap_congr fun w _ => ?_
  rw [statementDeclarations, flatMap_attach]

/-- Statements of the other kinds declare nothing. -/
theorem statementDeclarations_of_kind {v : Value} {k : String} (hk : kindOf v = .str k)
    (hne : k ∉ ["LocalStatement", "FunctionDeclaration", "IfStatement"]) :
    statementDeclarations v = [] := by
  simp only [List.mem_cons, List.not_mem_nil, or_false, not_or] at hne
  simp [statementDeclarations, hk, hne]

/-- The name that a value spells is the name of its chain. -/
theorem chainName?_of_joinedName {v : Value} {n : String} (h : joinedName v = .ok (some n)) :
    chainName? v = some n := by
  induction v using Value.sizeInduction generalizing n with
  | step v ih =>
    have hrule := nameRule v
    generalize joinedName v = result at hrule h
    cases hrule with
    | identifier hk hn =>
      rw [chainName?_of_identifier hk, hn]
      exact Except.ok.inj h
    | nameless | unknownIndexer | other => cases h
    | @member sep hk hs =>
      rw [chainName?_of_member hk, Separator.text?_of_ofValue? hs]
      rcases hbase : joinedName (v.field "base") with f | _ | base <;>
        rcases hleaf : joinedName (v.field "identifier") with g | _ | leaf <;>
        rw [hbase, hleaf] at h <;> cases h
      rw [ih _ (size_field_lt_of_kind hk "base") hbase,
        ih _ (size_field_lt_of_kind hk "identifier") hleaf]
      rfl

theorem chainName?_of_requireName {v : Value} {place : Place} {n : String}
    (h : requireName place v = .ok n) : chainName? v = some n := by
  unfold requireName at h
  rcases hv : joinedName v with f | _ | m <;> rw [hv] at h <;> cases h
  exact chainName?_of_joinedName hv

/-- The names that are needed of nodes are those of their chains. -/
theorem filterMap_of_requireNames {place : Place} {items : List Value} {names : List String}
    (h : requireNames place items = .ok names) : items.filterMap chainName? = names := by
  induction items generalizing names with
  | nil => exact Except.ok.inj h
  | cons v rest ih =>
    rw [requireNames] at h
    rcases hv : requireName place v with f | n <;> rw [hv] at h
    · cases h
    rcases hrest : requireNames place rest with f | others <;> rw [hrest] at h
    · cases h
    · rw [List.filterMap_cons_some (chainName?_of_requireName hv), ih hrest]
      exact Except.ok.inj h

namespace Step

variable {d : Int} {s t : Session} {steps rest : List Step} {names others : List String}

/-- The requests of steps that follow others. -/
theorem callsAll_append (d : Int) (steps rest : List Step) (s : Session) :
    callsAll d (steps ++ rest) s =
      callsAll d steps s ++ (performAll d steps s).callsThen (callsAll d rest) := by
  induction steps generalizing s with
  | nil => rfl
  | cons step steps ih =>
    rw [List.cons_append, callsAll, callsAll, performAll]
    rcases step.perform d s with ⟨_ | f, t⟩
    · exact (congrArg (step.calls d s ++ ·) (ih t)).trans (List.append_assoc _ _ _).symm
    · exact (List.append_nil _).symm

/-- The names that steps declare when they are carried out. -/
def declared (d : Int) (steps : List Step) (s : Session) : List String :=
  (callsAll d steps s).filterMap Call.declared?

theorem declared_append_of_none (h : performAll d steps s = (none, t)) :
    declared d (steps ++ rest) s = declared d steps s ++ declared d rest t := by
  rw [declared, callsAll_append, h, List.filterMap_append]
  rfl

theorem declared_append_of_some {f : Failure} (h : performAll d steps s = (some f, t)) :
    declared d (steps ++ rest) s = declared d steps s := by
  rw [declared, callsAll_append, h, Outcome.callsThen, List.append_nil, declared]

theorem aligned_of_performAll {o : Option Failure} (hs : Aligned d s)
    (h : performAll d steps s = (o, t)) : Aligned d t := by
  have hframe := frame_performAll d steps s hs.balanced
  rw [h] at hframe
  exact hs.of_frame hframe

/-- **Steps announce names** if these are declared in order when the steps are carried out, up to
the first failure. -/
structure Announces (steps : List Step) (names : List String) : Prop where
  starts {d : Int} {s : Session} (h : Aligned d s) : declared d steps s <+: names
  ends {d : Int} {s : Session} (h : Aligned d s) (hdone : (performAll d steps s).1 = none) :
    declared d steps s = names

/-- A step that declares no name, and has no body to do so. -/
def quiet : Step → Bool
  | .declare _ _ | .function _ => false
  | .enter _ | .ignore _ | .define _ _ | .use _ | .assign _ | .derive _ _ | .stop _ => true

theorem filterMap_defineCalls (d : Int) (names : List String) :
    ∀ s : Session, (Session.defineCalls d names s).filterMap Call.declared? = [] := by
  induction names with
  | nil => exact fun _ => rfl
  | cons n rest ih =>
    intro s
    rw [Session.defineCalls, List.filterMap_cons_none rfl]
    rcases s.define n d true with ⟨_ | f, t⟩
    · exact ih t
    · rfl

theorem filterMap_calls_of_quiet {step : Step} (h : step.quiet = true) (d : Int) (s : Session) :
    (step.calls d s).filterMap Call.declared? = [] := by
  cases step with
  | enter | ignore | stop | define | use => rfl
  | declare | function => cases h
  | assign n =>
    rw [calls, Session.assignCalls]
    split <;> rfl
  | derive n callee =>
    rw [calls, Session.deriveCalls]
    split
    · rfl
    · exact filterMap_defineCalls d _ s

namespace Announces

theorem stop (f : Failure) (names : List String) : Announces [.stop f] names :=
  ⟨fun _ => List.nil_prefix, fun _ hdone => by cases hdone⟩

theorem of_eq (h : ∀ d s, declared d steps s = names) : Announces steps names :=
  ⟨fun _ => (h _ _).symm ▸ List.prefix_rfl, fun _ _ => h _ _⟩

theorem nil : Announces [] [] := of_eq fun _ _ => rfl

theorem append (h : Announces steps names) (hrest : Announces rest others) :
    Announces (steps ++ rest) (names ++ others) := by
  constructor
  · intro d s hs
    rcases hsteps : performAll d steps s with ⟨_ | f, t⟩
    · have hdone : (performAll d steps s).1 = none := by rw [hsteps]
      rw [declared_append_of_none hsteps, h.ends hs hdone]
      exact (List.prefix_append_right_inj names).2 (hrest.starts (aligned_of_performAll hs hsteps))
    · rw [declared_append_of_some hsteps]
      exact (h.starts hs).trans (List.prefix_append names others)
  · intro d s hs hdone
    rw [performAll_append] at hdone
    rcases hsteps : performAll d steps s with ⟨_ | f, t⟩
    · rw [hsteps] at hdone
      have hdone' : (performAll d steps s).1 = none := by rw [hsteps]
      rw [declared_append_of_none hsteps, h.ends hs hdone',
        hrest.ends (aligned_of_performAll hs hsteps) hdone]
    · rw [hsteps] at hdone
      cases hdone

theorem of_quiet (h : ∀ step ∈ steps, step.quiet = true) : Announces steps [] := by
  have hnone : ∀ (d : Int) (s : Session), declared d steps s = [] := by
    induction steps with
    | nil => exact fun _ _ => rfl
    | cons step rest ih =>
      intro d s
      rw [List.forall_mem_cons] at h
      rw [declared, callsAll, List.filterMap_append, filterMap_calls_of_quiet h.1, List.nil_append]
      rcases step.perform d s with ⟨_ | f, t⟩
      · exact ih h.2 d t
      · rfl
  exact of_eq hnone

/-- Steps that declare nothing may stand before others, and after them. -/
theorem quiet_append (h : ∀ step ∈ steps, step.quiet = true) (hrest : Announces rest names) :
    Announces (steps ++ rest) names := (of_quiet h).append hrest

theorem append_quiet (h : Announces steps names) (hrest : ∀ step ∈ rest, step.quiet = true) :
    Announces (steps ++ rest) names := by
  have happend := h.append (of_quiet hrest)
  rw [List.append_nil] at happend
  exact happend

theorem declare (n : String) (isLocal : Bool) :
    Announces [.declare n isLocal, .define n isLocal] [n] := by
  have hone : Announces [.declare n isLocal] [n] := by
    have hdeclared : ∀ (d : Int) (s : Session), declared d [.declare n isLocal] s = [n] :=
      fun d s => by
        rw [declared, callsAll]
        rcases (Step.declare n isLocal).perform d s with ⟨_ | f, t⟩ <;> rfl
    exact of_eq hdeclared
  exact hone.append_quiet (List.forall_mem_singleton.2 rfl)

theorem flatMap {α : Type} {items : List α} {steps : α → List Step} {names : α → List String}
    (h : ∀ w ∈ items, Announces (steps w) (names w)) :
    Announces (items.flatMap steps) (items.flatMap names) := by
  induction items with
  | nil => exact nil
  | cons w rest ih =>
    rw [List.forall_mem_cons] at h
    rw [List.flatMap_cons, List.flatMap_cons]
    exact h.1.append (ih h.2)

/-- **A function announces what its body does.** -/
theorem function (h : Announces steps names) : Announces [.function steps] names := by
  -- opening and closing its scope declares nothing, and only the body can fail
  have hcalls : ∀ {d : Int} {s : Session}, Aligned d s → declared d [.function steps] s =
      declared s.scopes.defined.length steps s.openScope := fun {d s} hs => by
    have hthen : ((Step.function steps).perform d s).callsThen (callsAll d []) = [] := by
      rcases (Step.function steps).perform d s with ⟨_ | f, t⟩ <;> rfl
    rw [declared, callsAll, hthen, List.append_nil, calls_function hs, List.filterMap_append]
    exact List.append_nil _
  constructor
  · intro d s hs
    rw [hcalls hs]
    exact h.starts hs.openScope
  · intro d s hs hdone
    rw [hcalls hs]
    refine h.ends hs.openScope ?_
    rw [failure_performAll _ _ _ hs] at hdone
    rw [failure_performAll _ _ _ hs.openScope]
    simpa [stops] using hdone

end Announces

end Step

open Step (Announces)

variable {v : Value}

theorem quiet_of_looks {step : Step} (h : step.looks = true) : step.quiet = true := by
  cases step <;> simp_all [Step.looks, Step.quiet]

theorem quiet_expressionSteps (v : Value) : ∀ step ∈ expressionSteps v, step.quiet = true :=
  fun step hstep => quiet_of_looks (looks_expressionSteps v step hstep)

theorem quiet_stepsAt (key : String) (v : Value) :
    ∀ step ∈ stepsAt expressionSteps key v, step.quiet = true := by
  unfold stepsAt
  split
  · exact List.forall_mem_singleton.2 rfl
  · intro step hstep
    obtain ⟨w, -, hstep⟩ := List.mem_flatMap.1 hstep
    exact quiet_expressionSteps w step hstep

theorem quiet_initialSteps (names : List String) (v : Value) :
    ∀ step ∈ initialSteps names v, step.quiet = true := by
  unfold initialSteps
  split
  · exact List.forall_mem_nil _
  · exact List.forall_mem_singleton.2 rfl
  · unfold derivedSteps
    split
    · exact List.forall_mem_singleton.2 rfl
    · exact List.forall_mem_nil _
    · exact List.forall_mem_map.2 fun _ _ => rfl
  · exact List.forall_mem_nil _

theorem quiet_ofName {step : String → Step} (h : ∀ n, (step n).quiet = true) :
    ∀ name : Except Failure String, (Step.ofName step name).quiet = true
  | .ok n => h n
  | .error _ => rfl

theorem quiet_assignmentSteps (v : Value) : ∀ step ∈ assignmentSteps v, step.quiet = true := by
  unfold assignmentSteps
  split
  · exact List.forall_mem_singleton.2 rfl
  · exact List.forall_mem_map.2 fun w _ => quiet_ofName (fun _ => rfl) _

theorem quiet_parameterSteps (v : Value) : ∀ step ∈ parameterSteps v, step.quiet = true := by
  unfold parameterSteps
  refine List.forall_mem_append.2 ⟨?_, ?_⟩
  · split
    · exact List.forall_mem_singleton.2 rfl
    · exact List.forall_mem_nil _
  · split
    · exact List.forall_mem_singleton.2 rfl
    · exact List.forall_mem_map.2 fun w _ => quiet_ofName (fun _ => rfl) _

/-- A local declaration announces its variables. -/
theorem announces_localSteps (v : Value) :
    Announces (localSteps v) ((v.itemsAt "variables").filterMap chainName?) := by
  unfold localSteps
  split
  · exact .stop _ _
  · rename_i names hnames
    have hspelled : (v.itemsAt "variables").filterMap chainName? = names.flatMap fun n => [n] := by
      unfold localNames at hnames
      unfold Value.itemsAt
      split at hnames
      · cases hnames
      · rename_i items hitems
        rw [hitems, Option.getD_some, filterMap_of_requireNames hnames, List.flatMap_singleton']
    rw [hspelled, List.append_assoc]
    refine (Announces.flatMap fun n _ => .declare n true).append_quiet ?_
    exact List.forall_mem_append.2 ⟨quiet_initialSteps names v, quiet_stepsAt "init" v⟩

/-- A function announces its name, if it has one. -/
theorem announces_functionNameSteps (v : Value) :
    Announces (functionNameSteps v) (chainName? (v.field "identifier")).toList := by
  unfold functionNameSteps
  dsimp only
  split
  · rename_i hnull
    have hkind : kindOf (v.field "identifier") = .null :=
      kindOf_of_not_isRecord (by rw [Value.isNull_iff.1 hnull]; rfl)
    rw [chainName?_of_kind_ne (by simp [hkind]) (by simp [hkind])]
    exact .nil
  · split
    · rename_i n hn
      rw [chainName?_of_requireName hn]
      exact .declare n _
    · exact .stop _ _

/-- A clause announces what its statements do. -/
theorem announces_clauseSteps (h : Announces (blockSteps v) (blockDeclarations v)) :
    Announces (clauseSteps v) (blockDeclarations v) := by
  cases hr : v.isRecord with
  | false =>
    rw [clauseSteps_of_not_isRecord hr]
    exact .stop _ _
  | true =>
    rw [clauseSteps_of_isRecord hr]
    refine .quiet_append ?_ h
    split
    · exact List.forall_mem_nil _
    · exact quiet_expressionSteps _

/-- One rule of statements announces what the statement declares, given that the blocks of the
statement and of everything smaller do. -/
theorem announces_of_statementRule {steps : List Step}
    (ih : ∀ w, w.size ≤ v.size → Announces (blockSteps w) (blockDeclarations w))
    (hrule : StatementRule v steps) : Announces steps (statementDeclarations v) := by
  cases hrule with
  | localNames hk =>
    rw [statementDeclarations, if_pos (Value.isText_iff.2 hk)]
    exact announces_localSteps v
  | function hk =>
    have hbody := Announces.quiet_append (quiet_parameterSteps v) (ih v (Nat.le_refl _))
    have hnames : statementDeclarations v =
        (chainName? (v.field "identifier")).toList ++ blockDeclarations v := by
      simp [statementDeclarations, hk]
    rw [hnames]
    exact (announces_functionNameSteps v).append hbody.function
  | choice hk =>
    have hnames : statementDeclarations v = (v.itemsAt "clauses").flatMap blockDeclarations := by
      simp [statementDeclarations, hk]
    rw [hnames, stepsAt, Value.itemsAt]
    split
    · exact .stop _ _
    · rename_i items hitems
      rw [hitems, Option.getD_some]
      exact .flatMap fun w hw =>
        announces_clauseSteps (ih w (Nat.le_of_lt (Value.size_itemsAt_lt _ hitems hw)))
  | assignment hk =>
    rw [statementDeclarations_of_kind hk (by decide)]
    exact .of_quiet (quiet_assignmentSteps v)
  | call hk =>
    rw [statementDeclarations_of_kind hk (by decide)]
    exact .of_quiet (quiet_expressionSteps _)
  | result hk =>
    rw [statementDeclarations_of_kind hk (by decide)]
    exact .of_quiet (quiet_stepsAt "arguments" v)
  | unknown => exact .stop _ _

/-- **A block announces the names that its statements declare.** -/
theorem announces_blockSteps (v : Value) : Announces (blockSteps v) (blockDeclarations v) := by
  induction v using Value.sizeInduction with
  | step v ih =>
    have hrule := blockRule v
    generalize blockSteps v = steps at hrule
    cases hrule with
    | noBody => exact .stop _ _
    | @body items h =>
      have hitems : v.itemsAt? "body" = some items := by rw [Value.itemsAt?, h]; rfl
      rw [blockDeclarations_eq, Value.itemsAt, hitems]
      refine .flatMap fun w hw => ?_
      have hlt := Value.size_itemsAt_lt "body" hitems hw
      obtain ⟨rest, hrest, hstmt⟩ := statementRule w
      have henter : ∀ step ∈ [Step.enter (kindOf w)], step.quiet = true :=
        List.forall_mem_singleton.2 rfl
      rw [hrest]
      exact Announces.quiet_append henter
        (announces_of_statementRule (fun u hu => ih u (Nat.lt_of_le_of_lt hu hlt)) hstmt)

/-! ## Names taken for granted -/

namespace Session

/-- The names that the walk over a session's tree declares, in order. -/
def walkDeclared (s : Session) : List String := (s.walkCalls 0).filterMap Call.declared?

theorem walkCalls_start (settings : Settings) (tree : Value) (d : Int) :
    (start settings tree).walkCalls d =
      Step.callsAll d (blockSteps tree) (start settings tree).walking := by
  have h := fresh_start settings tree
  rw [walkCalls, if_neg (by simp [h.walked_eq])]
  exact congrArg (fun t => Step.callsAll d (blockSteps t) _) h.tree_eq

/-- **A name taken for granted is never undefined, and declaring it is always reported.**  It is
visible at every point of a run, wherever a scope is open, and after any requests, be they the
run's own or others.  No use of it is among the findings.  Each declaration of it that the run makes
is, where it was made: after what was found before, of which only undefined uses are ever taken
back, and before all that is found later.  The declarations that a run makes are those of its tree,
as far as it gets. -/
theorem verify_global_name (settings : Settings) (tree : Value) (path : Option String) (n : String)
    (hn : n ∈ settings.globals) :
    let s := start settings tree
    let found := (s.verify path).2.findings
    (∀ p, Point.Reaches (Point.first s) p → ∀ d, p.session.scopes.IsOpen d →
        p.session.scopes.visible n d = .ok true) ∧
      (∀ (calls : List Call) (d : Int), (s.afterAll calls).scopes.IsOpen d →
        (s.afterAll calls).scopes.visible n d = .ok true) ∧
      ⟨.undefinedUse, n⟩ ∉ found ∧
      found.count ⟨.redefinition, n⟩ = s.walkDeclared.count n ∧
      (∀ made c rest, s.walkCalls 0 = made ++ c :: rest → c.declared? = some n →
        ∃ (keep : Finding → Bool) (later : List Finding), (∀ m, keep ⟨.redefinition, m⟩ = true) ∧
          found = (s.afterAll made).findings.filter keep ++ ⟨.redefinition, n⟩ :: later) ∧
      s.walkDeclared <+: blockDeclarations tree ∧
      ((s.walk 0).1 = none → s.walkDeclared = blockDeclarations tree) ∧
      ∀ r, (s.verify path).1 = .ok r → r.findings = found := by
  intro s found
  have hstart := fresh_start settings tree
  have hs : s.scopes.Balanced := hstart.balanced
  have hglobal : n ∈ s.scopes.definedAt 0 := mem_definedAt_start.2 ⟨rfl, hn⟩
  have halign := aligned_walking settings tree
  have hcalls := walkCalls_start settings tree 0
  have hgranted : s.scopes.GrantsAll (s.walkCalls 0) :=
    hcalls ▸ Step.grantsAll_callsAll 0 (blockSteps tree) halign
  have hfound : found = (s.afterAll (s.walkCalls 0)).findings := by
    rw [← (alike_walk hs 0).findings_eq, ← snd_verify s path]
  have hdeclared : s.walkDeclared = Step.declared 0 (blockSteps tree) s.walking :=
    congrArg (List.filterMap Call.declared?) hcalls
  have hannounced := announces_blockSteps tree
  refine ⟨fun p hp d hd => ?_, fun calls d hd => ?_, ?_, ?_, ?_, ?_, fun hdone => ?_,
    fun r hr => findings_of_verify hr⟩
  · have hretains := retains_of_later (later_of_reaches hp 0) halign.balanced
      halign.balanced.isOpen_zero
    exact hretains.balanced.visible_of_global (hretains.subset hglobal) hd
  · rw [scopes_afterAll calls hs] at hd ⊢
    exact (hs.afterAll calls).visible_of_global (Scopes.mem_global_afterAll hs hglobal calls) hd
  · rw [hfound]
    exact undefinedUse_notMem_afterAll _ hs hglobal (by simp [hstart.findings_eq, s])
  · rw [hfound, count_afterAll _ hs hglobal hgranted, hstart.findings_eq, List.count_nil,
      Nat.zero_add, walkDeclared]
  · intro made c rest hsplit hc
    rw [hfound, hsplit]
    exact findings_afterAll_of_declared hs hglobal (hsplit ▸ hgranted) hc
  · rw [hdeclared]
    exact hannounced.starts halign
  · rw [walk_start] at hdone
    rw [hdeclared]
    exact hannounced.ends halign hdone

/-- The name is declared in a function and after it; a loop ends the walk before the last time. -/
theorem verify_global_name_loop :
    let name (n : String) : Value := .record [("type", .str "Identifier"), ("name", .str n)]
    let declaration : Value :=
      .record [("type", .str "LocalStatement"), ("variables", .list [name "f"])]
    let function : Value := .record [("type", .str "FunctionDeclaration"),
      ("identifier", name "g"), ("body", .list [declaration])]
    let call : Value := .record [("type", .str "CallStatement"), ("expression", name "f")]
    let loop : Value := .record [("type", .str "WhileStatement")]
    let tree : Value := .record [("body", .list [function, call, declaration, loop, declaration])]
    let s := start { Settings.bundled with globals := ["f"] } tree
    let found := (s.verify none).2.findings
    "f" ∈ ["f"] ∧ blockDeclarations tree = ["g", "f", "f", "f"] ∧ s.walkDeclared = ["g", "f", "f"] ∧
      ⟨.undefinedUse, "f"⟩ ∉ found ∧
      found.count ⟨.redefinition, "f"⟩ = s.walkDeclared.count "f" := by
  intro name declaration function call loop tree s found
  obtain ⟨-, -, hunused, hcount, -⟩ :=
    verify_global_name { Settings.bundled with globals := ["f"] } tree none "f" (by decide)
  exact ⟨by decide, by decide +kernel, by decide +kernel, hunused, hcount⟩

end Session

end DefUse
