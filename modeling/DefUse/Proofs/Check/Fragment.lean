import DefUse.Proofs.Check.Alignment
import DefUse.Proofs.Check.Grammar

/-!
# Proofs/Check/Fragment — a well-shaped tree is accepted exactly if it is in the supported fragment

Whether a run fails is a matter of the stops of its steps.  `Decides steps P` says that steps have
no stop exactly if `P` holds, and that all the stops they have are refusals of unsupported
constructs.  It follows the steps as they are put together, and so it is shown for every rule: of
names, expressions, operands, statements, clauses and blocks.
-/

namespace DefUse

open Step (stopsAll)

variable {v : Value} {k : String}

/-- The failure is the refusal of an unsupported construct. -/
def Failure.IsRefusal (f : Failure) : Prop := ∃ kind place base, f = .unsupported kind place base

theorem Failure.IsRefusal.exists_message {f : Failure} (h : f.IsRefusal) :
    ∃ m, f.message? = some m := by
  obtain ⟨kind, place, base, rfl⟩ := h
  cases base <;> exact ⟨_, rfl⟩

/-- **Steps decide a property**: they have no stop exactly if it holds, and stop with nothing but
refusals otherwise. -/
structure Decides (steps : List Step) (P : Prop) : Prop where
  refusals : Step.AllStops Failure.IsRefusal steps
  clear_iff : stopsAll steps = [] ↔ P

namespace Decides

variable {steps rest : List Step} {P Q : Prop}

theorem congr (h : Decides steps P) (hPQ : P ↔ Q) : Decides steps Q :=
  ⟨h.refusals, h.clear_iff.trans hPQ⟩

theorem of_clear (h : stopsAll steps = []) : Decides steps True :=
  ⟨.of_clear h, by simp [h]⟩

theorem refuse (kind : Value) (place : Place) (base : Option Value) :
    Decides [.stop (.unsupported kind place base)] False := by
  exact ⟨.stop ⟨kind, place, base, rfl⟩, by simp [Step.stops]⟩

theorem append (h : Decides steps P) (hrest : Decides rest Q) :
    Decides (steps ++ rest) (P ∧ Q) := by
  refine ⟨h.refusals.append hrest.refusals, ?_⟩
  rw [Step.stopsAll_append, List.append_eq_nil_iff, h.clear_iff, hrest.clear_iff]

/-- Steps before which nothing stops. -/
theorem clear_append (hclear : stopsAll steps = []) (hrest : Decides rest Q) :
    Decides (steps ++ rest) Q :=
  ((of_clear hclear).append hrest).congr (by simp)

theorem function (h : Decides steps P) : Decides [.function steps] P := by
  exact ⟨h.refusals.function, by simpa [Step.stops] using h.clear_iff⟩

theorem flatMap {items : List Value} {steps : Value → List Step} {P : Value → Prop}
    (h : ∀ w ∈ items, Decides (steps w) (P w)) :
    Decides (items.flatMap steps) (∀ w ∈ items, P w) := by
  refine ⟨.flatMap fun w hw => (h w hw).refusals, ?_⟩
  rw [Step.stopsAll_flatMap, List.flatMap_eq_nil_iff]
  exact forall₂_congr fun w hw => (h w hw).clear_iff

theorem map {items : List Value} {step : Value → Step} {P : Value → Prop}
    (h : ∀ w ∈ items, Decides [step w] (P w)) : Decides (items.map step) (∀ w ∈ items, P w) := by
  rw [List.map_eq_flatMap]
  exact .flatMap h

/-- The steps of the items of a list of nodes. -/
theorem stepsAt {steps : Value → List Step} {P : Value → Prop} {key : String} (hv : Shaped v)
    (hk : kindOf v = .str k) (hkey : key ∈ listFields k)
    (h : ∀ w ∈ v.itemsAt key, Shaped w → Decides (steps w) (P w)) :
    Decides (stepsAt steps key v) (∀ w ∈ v.itemsAt key, P w) := by
  rw [DefUse.stepsAt, hv.itemsAt?_eq hk hkey]
  exact .flatMap fun w hw => h w hw (hv.item hk hkey hw)

end Decides

/-! ## Names -/

/-- A well-shaped node gives a name where one is needed, or is refused. -/
theorem Shaped.requireName (h : Shaped v) (place : Place) :
    (NameChain v ∧ ∃ n, requireName place v = .ok n) ∨
      ¬ NameChain v ∧ requireName place v = .error (.unsupported (kindOf v) place none) := by
  obtain ⟨o, ho, hiff⟩ := h.joinedName
  cases o with
  | some n => exact Or.inl ⟨hiff.1 rfl, n, by rw [DefUse.requireName, ho]; rfl⟩
  | none =>
    refine Or.inr ⟨fun hc => ?_, by rw [DefUse.requireName, ho]; rfl⟩
    exact absurd (hiff.2 hc) (by simp)

theorem decides_ofName (h : Shaped v) (place : Place) {step : String → Step}
    (hstep : ∀ n, (step n).stops = []) :
    Decides [.ofName step (requireName place v)] (NameChain v) := by
  rcases h.requireName place with ⟨hc, n, hn⟩ | ⟨hc, hn⟩
  · rw [hn]
    exact (Decides.of_clear (by simp [Step.ofName, hstep])).congr (by simp [hc])
  · rw [hn]
    exact (Decides.refuse _ _ _).congr (by simp [hc])

/-- Names are all there, or the first that is not is refused. -/
theorem requireNames_cases (place : Place) {items : List Value} (h : ∀ w ∈ items, Shaped w) :
    ((∀ w ∈ items, NameChain w) ∧ ∃ names, requireNames place items = .ok names) ∨
      (¬ ∀ w ∈ items, NameChain w) ∧
        ∃ kind, requireNames place items = .error (.unsupported kind place none) := by
  induction items with
  | nil => exact Or.inl ⟨by simp, [], rfl⟩
  | cons w rest ih =>
    rw [List.forall_mem_cons] at h ⊢
    rcases h.1.requireName place with ⟨hc, n, hn⟩ | ⟨hc, hn⟩
    · rcases ih h.2 with ⟨hrest, names, hnames⟩ | ⟨hrest, kind, hkind⟩
      · exact Or.inl ⟨⟨hc, hrest⟩, n :: names, by rw [requireNames, hn, hnames]; rfl⟩
      · exact Or.inr ⟨fun hall => hrest hall.2, kind, by rw [requireNames, hn, hkind]; rfl⟩
    · exact Or.inr ⟨fun hall => hc hall.1, kindOf w, by rw [requireNames, hn]; rfl⟩

/-! ## Expressions -/

/-- A well-shaped node has a left operand exactly if its kind has operands. -/
theorem Shaped.isNull_left (h : Shaped v) :
    (v.field "left").isNull = true ↔ ∀ k ∈ binaryKinds, kindOf v ≠ .str k := by
  constructor
  · intro hnull k hmem hk
    have hfield : ∀ k ∈ binaryKinds, "left" ∈ nodeFields k := by decide
    have hleft : Shaped (v.field "left") := h.part hk (hfield k hmem)
    exact hleft.ne_null (Value.isNull_iff.1 hnull)
  · intro hk
    exact Value.isNull_iff.2 (h.left_eq_null hk)

/-- **A well-shaped operand is ignored** if it is no name chain and its kind is never refused. -/
theorem Shaped.ignored_iff (h : Shaped v) : Ignored v ↔ ¬ NameChain v ∧ Lenient v := by
  obtain ⟨k, hk⟩ := h.exists_kind
  obtain ⟨o, ho, hiff⟩ := h.joinedName
  have hkind : isOneOf operandKinds (kindOf v) = false ↔
      ∀ k' ∈ operandKinds, kindOf v ≠ .str k' := by
    rw [hk, isOneOf_str, decide_eq_false_iff_not]
    exact ⟨fun hmem k' hk' he => hmem (Value.str.inj he ▸ hk'), fun hne hmem => hne k hmem rfl⟩
  constructor
  · intro hi
    obtain rfl : o = none := Except.ok.inj (ho.symm.trans hi.nameless)
    refine ⟨fun hc => absurd (hiff.2 hc) (by simp), fun k' hmem => ?_⟩
    rcases List.mem_append.1 hmem with hmem | hmem
    · exact hkind.1 hi.kind k' hmem
    · exact h.isNull_left.1 hi.simple k' hmem
  · rintro ⟨hc, hlenient⟩
    obtain rfl : o = none := Option.not_isSome_iff_eq_none.1 fun hs => hc (hiff.1 hs)
    refine ⟨ho, h.isNull_left.2 fun k' hk' => ?_, by rw [hk]; rfl, hkind.2 fun k' hk' => ?_⟩
    · exact hlenient k' (List.mem_append_right _ hk')
    · exact hlenient k' (List.mem_append_left _ hk')

/-- **An operand is refused if it is refused as an expression**, unless its kind never is. -/
theorem decides_operandSteps (hv : Shaped v) (h : Decides (expressionSteps v) (Supported v)) :
    Decides (operandSteps v) (Lenient v ∨ Supported v) := by
  by_cases hi : Ignored v
  · have hlenient := (hv.ignored_iff.1 hi).2
    rw [operandSteps_of_ignored hi]
    exact (Decides.of_clear (by simp [Step.stops])).congr (by simp [hlenient])
  · rw [operandSteps_of_not_ignored hi]
    have hname : Lenient v → NameChain v := fun hlenient =>
      Classical.not_not.1 fun hc => hi (hv.ignored_iff.2 ⟨hc, hlenient⟩)
    exact h.congr ⟨Or.inr, fun hor => hor.elim (fun hlenient => .name (hname hlenient)) id⟩

/-- One rule of expressions decides whether a well-shaped node is supported, given that smaller
nodes are decided. -/
theorem decides_of_expressionRule {steps : List Step} (hv : Shaped v)
    (ih : ∀ w, w.size < v.size → Shaped w → Decides (expressionSteps w) (Supported w))
    (hrule : ExpressionRule v steps) : Decides steps (Supported v) := by
  obtain ⟨o, ho, hiff⟩ := hv.joinedName
  have hpart : ∀ {k key : String}, kindOf v = .str k → key ∈ nodeFields k →
      Decides (expressionSteps (v.field key)) (Supported (v.field key)) := fun hk hkey =>
    ih _ (size_field_lt_of_kind hk _) (hv.part hk hkey)
  cases hrule with
  | value hr => exact absurd hv.isRecord (by simp [hr])
  | fault h => cases h.symm.trans ho
  | name h =>
    obtain rfl : o = some _ := Except.ok.inj (ho.symm.trans h)
    have hs : Supported v := .name (hiff.1 rfl)
    exact (Decides.of_clear (by simp [Step.stops])).congr (by simp [hs])
  | call hk =>
    refine ((hpart hk (by decide)).append ?_).congr (supported_call hk).symm
    exact .stepsAt hv hk (by decide) fun w hw hs =>
      ih w (Value.size_lt_of_mem_itemsAt hw) hs
  | notAKey hk =>
    obtain ⟨k, hk'⟩ := hv.exists_kind
    simp [hk', isKey] at hk
  | literal hk hmem =>
    have hs : Supported v := .literal hk hmem
    exact (Decides.of_clear Step.stopsAll_nil).congr (by simp [hs])
  | binary hk hmem =>
    have hfields : ∀ k ∈ binaryKinds, "left" ∈ nodeFields k ∧ "right" ∈ nodeFields k := by decide
    have hleft := (hfields _ hmem).1
    have hright := (hfields _ hmem).2
    exact ((decides_operandSteps (hv.part hk hleft) (hpart hk hleft)).append
      (decides_operandSteps (hv.part hk hright) (hpart hk hright))).congr
        (supported_binary hk hmem).symm
  | unary hk => exact (hpart hk (by decide)).congr (supported_unary hk).symm
  | member h hk =>
    obtain rfl : o = none := Except.ok.inj (ho.symm.trans h)
    have hs : ¬ Supported v := by
      intro hs
      rcases hs.kind with hc | ⟨k', hmem, hk'⟩
      · exact absurd (hiff.2 hc) (by simp)
      · exact absurd (Value.str.inj (hk.symm.trans hk') ▸ hmem) (by decide)
    exact (Decides.refuse _ _ _).congr (by simp [hs])
  | unknown hr h hk =>
    obtain rfl : o = none := Except.ok.inj (ho.symm.trans h)
    have hs : ¬ Supported v := by
      intro hs
      rcases hs.kind with hc | ⟨k', hmem, hk'⟩
      · exact absurd (hiff.2 hc) (by simp)
      · exact hk k' (List.mem_cons_of_mem _ hmem) hk'
    exact (Decides.refuse _ _ _).congr (by simp [hs])

/-- **A well-shaped expression is refused exactly if it is not supported.** -/
theorem decides_expressionSteps (h : Shaped v) : Decides (expressionSteps v) (Supported v) := by
  induction v using Value.sizeInduction with
  | step v ih => exact decides_of_expressionRule h ih (expressionRule v)

/-! ## Statements -/

/-- The members that declared names gain are no reason to stop. -/
theorem stopsAll_derivedSteps (h : Shaped v) (names : List String) :
    stopsAll (derivedSteps names v) = [] := by
  have hcallee : ∃ o, calleeOf v = .ok o := by
    unfold calleeOf
    split
    · rename_i hk
      obtain ⟨o, ho, -⟩ := (h.part (Value.isText_iff.1 hk) (by decide : "base" ∈ _)).joinedName
      exact ⟨o, ho⟩
    · exact ⟨none, rfl⟩
  obtain ⟨o, ho⟩ := hcallee
  rw [derivedSteps, ho]
  cases o <;> simp [Step.stops]

theorem stopsAll_initialSteps (hv : Shaped v) (hk : kindOf v = .str "LocalStatement")
    (names : List String) : stopsAll (initialSteps names v) = [] := by
  have hinit : "init" ∈ listFields "LocalStatement" := by decide
  unfold initialSteps
  rcases hv.get?_cases hk hinit with ⟨hget, -⟩ | hget
  · simp [hget]
  · rw [hget]
    split
    · exact Step.stopsAll_nil
    · simp_all
    · rename_i value hvalue
      have hitems : v.itemsAt "init" = [value] := by simpa using hvalue
      exact stopsAll_derivedSteps (hv.item hk hinit (by simp [hitems])) names
    · exact Step.stopsAll_nil

theorem decides_localSteps (hv : Shaped v) (hk : kindOf v = .str "LocalStatement") :
    Decides (localSteps v) (SupportedStatement v) := by
  have hkey : "variables" ∈ listFields "LocalStatement" := by decide
  have hlocal : localNames v = requireNames .localVariable (v.itemsAt "variables") := by
    rw [localNames, hv.itemsAt?_eq hk hkey]
  rw [localSteps, hlocal]
  rcases requireNames_cases .localVariable fun w hw => hv.item hk hkey hw with
    ⟨hall, names, hnames⟩ | ⟨hall, kind, hkind⟩
  · rw [hnames]
    have hclear : stopsAll (names.flatMap (fun n => [.declare n true, .define n true]) ++
        initialSteps names v) = [] := by
      simp [Step.stops, stopsAll_initialSteps hv hk]
    have hvalues : Decides (expressionsAt "init" v) (∀ w ∈ v.itemsAt "init", Supported w) :=
      .stepsAt hv hk (by decide) fun w _ hs => decides_expressionSteps hs
    refine (Decides.clear_append hclear hvalues).congr ?_
    rw [supportedStatement_localNames hk]
    exact ⟨fun h => ⟨hall, h⟩, fun h => h.2⟩
  · rw [hkind]
    refine (Decides.refuse _ _ _).congr ?_
    rw [supportedStatement_localNames hk]
    exact ⟨False.elim, fun h => hall h.1⟩

theorem decides_assignmentSteps (hv : Shaped v) (hk : kindOf v = .str "AssignmentStatement") :
    Decides (assignmentSteps v) (SupportedStatement v) := by
  have hkey : "variables" ∈ listFields "AssignmentStatement" := by decide
  rw [assignmentSteps, hv.itemsAt?_eq hk hkey]
  refine Decides.congr (.map fun w hw => ?_) (supportedStatement_assignment hk).symm
  exact decides_ofName (hv.item hk hkey hw) _ fun n => by rw [Step.stops]

theorem decides_functionNameSteps (hv : Shaped v) (hk : kindOf v = .str "FunctionDeclaration") :
    Decides (functionNameSteps v)
      (v.field "identifier" ≠ .null → NameChain (v.field "identifier")) := by
  unfold functionNameSteps
  dsimp only
  split
  · rename_i hnull
    exact (Decides.of_clear Step.stopsAll_nil).congr (by simp [Value.isNull_iff.1 hnull])
  · rename_i hnull
    have hne : v.field "identifier" ≠ .null := fun he => hnull (Value.isNull_iff.2 he)
    rcases (hv.functionName hk hne).requireName .functionName with ⟨hc, n, hn⟩ | ⟨hc, hn⟩
    · rw [hn]
      exact (Decides.of_clear (by simp [Step.stops])).congr (by simp [hc])
    · rw [hn]
      exact (Decides.refuse _ _ _).congr (by simp [hc, hne])

theorem decides_parameterSteps (hv : Shaped v) (hk : kindOf v = .str "FunctionDeclaration") :
    Decides (parameterSteps v)
      (∀ w ∈ v.itemsAt "parameters", kindOf w ≠ .str "VarargLiteral" → NameChain w) := by
  have hkey : "parameters" ∈ listFields "FunctionDeclaration" := by decide
  rw [parameterSteps, hv.itemsAt?_eq hk hkey]
  refine Decides.clear_append (by split <;> simp [Step.stops]) ?_
  refine Decides.congr (P := ∀ w ∈ _, NameChain w) (.map fun w hw => ?_)
    (by simp [Value.isText_eq_false_iff])
  exact decides_ofName (hv.item hk hkey (List.mem_filter.1 hw).1) _ fun n => by rw [Step.stops]

theorem decides_clauseSteps (hv : Shaped v) (hc : ShapedClause v)
    (h : ShapedBlock v → Decides (blockSteps v) (SupportedBlock v)) :
    Decides (clauseSteps v)
      ((v.field "condition" ≠ .null → Supported (v.field "condition")) ∧ SupportedBlock v) := by
  cases hc with
  | clause condition block =>
    rw [clauseSteps_of_isRecord hv.isRecord]
    refine .append ?_ (h block)
    split
    · rename_i hnull
      exact (Decides.of_clear Step.stopsAll_nil).congr (by simp [Value.isNull_iff.1 hnull])
    · rename_i hnull
      have hne : v.field "condition" ≠ .null := fun he => hnull (Value.isNull_iff.2 he)
      exact (decides_expressionSteps (condition hne)).congr (by simp [hne])

/-- One rule of statements decides whether a well-shaped node is supported, given that its block and
those of smaller nodes are decided. -/
theorem decides_of_statementRule {steps : List Step} (hv : Shaped v)
    (ih : ∀ w, w.size ≤ v.size → ShapedBlock w → Decides (blockSteps w) (SupportedBlock w))
    (hrule : StatementRule v steps) : Decides steps (SupportedStatement v) := by
  cases hrule with
  | localNames hk => exact decides_localSteps hv hk
  | assignment hk => exact decides_assignmentSteps hv hk
  | function hk =>
    have hblock := ih v (Nat.le_refl _) (hv.block hk (by decide))
    exact ((decides_functionNameSteps hv hk).append
      ((decides_parameterSteps hv hk).append hblock).function).congr
        (supportedStatement_function hk).symm
  | call hk =>
    exact (decides_expressionSteps (hv.part hk (by decide))).congr (supportedStatement_call hk).symm
  | choice hk =>
    refine Decides.congr (.stepsAt hv hk (by decide) fun w hw hs => ?_)
      (supportedStatement_choice hk).symm
    exact decides_clauseSteps hs (hv.clause hk hw)
      (ih w (Nat.le_of_lt (Value.size_lt_of_mem_itemsAt hw)))
  | result hk =>
    exact Decides.congr (.stepsAt hv hk (by decide) fun w _ hs => decides_expressionSteps hs)
      (supportedStatement_result hk).symm
  | unknown hk =>
    have hs : ¬ SupportedStatement v := by
      intro hs
      obtain ⟨k', hmem, hk'⟩ := hs.kind
      exact hk k' hmem hk'
    exact (Decides.refuse _ _ _).congr (by simp [hs])

theorem decides_statementSteps (hv : Shaped v)
    (ih : ∀ w, w.size ≤ v.size → ShapedBlock w → Decides (blockSteps w) (SupportedBlock w)) :
    Decides (statementSteps v) (SupportedStatement v) := by
  obtain ⟨steps, hsteps, hrule⟩ := statementRule v
  have henter : stopsAll [.enter (kindOf v)] = [] := by simp [Step.stops]
  rw [hsteps]
  exact Decides.clear_append henter (decides_of_statementRule hv ih hrule)

/-- **A well-shaped block is refused exactly if it is not supported.** -/
theorem decides_blockSteps (h : ShapedBlock v) : Decides (blockSteps v) (SupportedBlock v) := by
  induction v using Value.sizeInduction with
  | step v ih =>
    cases h with
    | block body statements =>
      have hrule := blockRule v
      generalize blockSteps v = steps at hrule
      cases hrule with
      | @body items hbody =>
        have hitems : v.itemsAt "body" = items := by
          simp [Value.itemsAt, Value.itemsAt?, Value.items?, hbody]
        rw [SupportedBlock, hitems]
        refine .flatMap fun w hw => ?_
        rw [← hitems] at hw
        exact decides_statementSteps (statements w hw) fun u hu =>
          ih u (Nat.lt_of_le_of_lt hu (Value.size_lt_of_mem_itemsAt hw))
      | noBody hbody =>
        obtain ⟨items, hitems⟩ := body
        exact absurd hitems (hbody items)

/-! ## Runs -/

/-- **A well-shaped tree is accepted exactly if it is in the supported fragment.**  Whatever the
settings, checking it gives a report; the report is a success exactly if every statement of the tree
is supported, and otherwise its one error is the refusal of an unsupported construct, the first that
the check comes to. -/
theorem verifyTree_success_iff (settings : Settings) (tree : Value) (path : Option String)
    (h : Shaped tree) (hk : kindOf tree = .str "Chunk") :
    ∃ r, verifyTree settings tree path = .ok r ∧ (r.success = true ↔ SupportedBlock tree) ∧
      (r.success = false → ∃ f, (stopsAll (blockSteps tree)).head? = some f ∧ f.IsRefusal ∧
        r.errors = f.message?.toList) := by
  have hdecides := decides_blockSteps (h.block hk (by decide))
  have hwalk := Session.failure_walk_start settings tree
  cases hr : verifyTree settings tree path with
  | error f =>
    -- a failure that escapes has no message, but a refusal has one
    obtain ⟨hf, hnone⟩ := Session.failure_of_verify hr
    rw [hwalk] at hf
    obtain ⟨m, hm⟩ := (hdecides.refusals f (List.mem_of_head? hf)).exists_message
    cases hm.symm.trans hnone
  | ok r =>
    obtain ⟨herrors, hsuccess⟩ := Session.report_of_verify hr
    rw [hwalk] at hsuccess herrors
    refine ⟨r, rfl, ?_, fun hfail => ?_⟩
    · rw [hsuccess, List.head?_eq_none_iff, hdecides.clear_iff]
    · cases hf : (stopsAll (blockSteps tree)).head? with
      | none => exact absurd (hsuccess.2 hf) (by simp [hfail])
      | some f =>
        rw [hf] at herrors
        exact ⟨f, rfl, hdecides.refusals f (List.mem_of_head? hf), herrors⟩

/-- The tree of `return x + {}`, whose operands are a name chain and a node of no known kind. -/
theorem verifyTree_success_iff_sum :
    let name : Value := .record [("type", .str "Identifier"), ("name", .str "x")]
    let table : Value := .record [("type", .str "TableConstructorExpression")]
    let sum : Value := .record [("type", .str "BinaryExpression"), ("left", name), ("right", table)]
    let result : Value := .record [("type", .str "ReturnStatement"), ("arguments", .list [sum])]
    let tree : Value := .record [("type", .str "Chunk"), ("body", .list [result])]
    Shaped tree ∧ kindOf tree = .str "Chunk" ∧ ∃ r, verifyTree .bundled tree none = .ok r ∧
      (r.success = true ↔ SupportedBlock tree) ∧
      (r.success = false → ∃ f, (stopsAll (blockSteps tree)).head? = some f ∧ f.IsRefusal ∧
        r.errors = f.message?.toList) := by
  intro name table sum result tree
  have hname : Shaped name := by
    refine .node (k := "Identifier") rfl (fun _ => rfl) ?_ ?_ ?_ ?_ ?_ ?_ ?_ ?_
    · exact fun _ => ⟨"x", rfl, by decide⟩
    all_goals simp [listFields, nodeFields, blockKinds]
  have htable : Shaped table := by
    refine .node (k := "TableConstructorExpression") rfl (fun _ => rfl) ?_ ?_ ?_ ?_ ?_ ?_ ?_ ?_
    all_goals simp [listFields, nodeFields, blockKinds]
  have hsum : Shaped sum := by
    refine .node (k := "BinaryExpression") rfl ?_ ?_ ?_ ?_ ?_ ?parts ?_ ?_ ?_
    case parts => exact List.forall_mem_cons.2 ⟨hname, List.forall_mem_singleton.2 htable⟩
    all_goals simp [listFields, binaryKinds, blockKinds]
  have hresult : Shaped result := by
    refine .node (k := "ReturnStatement") rfl (fun _ => rfl) ?_ ?_ ?lists ?items ?_ ?_ ?_ ?_
    case lists =>
      exact List.forall_mem_singleton.2 fun w hw => ⟨[sum], (Option.some.inj hw).symm⟩
    case items => exact List.forall_mem_singleton.2 (List.forall_mem_singleton.2 hsum)
    all_goals simp [nodeFields, blockKinds]
  have htree : Shaped tree := by
    refine .node (k := "Chunk") rfl (fun _ => rfl) ?_ ?_ ?_ ?_ ?_ ?_ ?block ?_
    case block => exact fun _ => .block ⟨[result], rfl⟩ (List.forall_mem_singleton.2 hresult)
    all_goals simp [listFields, nodeFields]
  exact ⟨htree, rfl, verifyTree_success_iff .bundled tree none htree rfl⟩

end DefUse
