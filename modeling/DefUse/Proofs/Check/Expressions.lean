import Mathlib.Data.List.Basic
import DefUse.Proofs.Check.Fragment

/-!
# Proofs/Check/Expressions — what an expression records

`mentions` lists what an expression mentions, from left to right: the names it uses, and what there
is no rule for.  It goes by kinds alone and knows neither scopes nor steps.  The steps of a
well-shaped expression are its mentions, but for operands that are ignored
(`filter_expressionSteps`), so checking it has the effect of recording them one by one.

An operand is checked like an expression unless it is ignored.  An expression that is accepted on
its own is never ignored as an operand but in one case, a node for a binary expression that has no
left operand (`lacksLeft_of_ignored`).
-/

namespace DefUse

variable {v : Value} {n : String} {k : String}

/-! ## Names -/

/-- **The name a chain spells**: its identifiers, with the separators between them. -/
def chainName? (v : Value) : Option String :=
  if (kindOf v).isText "Identifier" then (v.field "name").text?
  else if _ : (kindOf v).isText "MemberExpression" then
    (chainName? (v.field "base")).bind fun base =>
      (v.field "indexer").text?.bind fun sep =>
        (chainName? (v.field "identifier")).map fun leaf => base ++ sep ++ leaf
  else none
termination_by v.size
decreasing_by all_goals exact Value.size_field_lt _ (isRecord_of_kind (by assumption))

theorem chainName?_of_identifier (hk : kindOf v = .str "Identifier") :
    chainName? v = (v.field "name").text? := by
  rw [chainName?, if_pos (Value.isText_iff.2 hk)]

theorem chainName?_of_member (hk : kindOf v = .str "MemberExpression") :
    chainName? v =
      (chainName? (v.field "base")).bind fun base =>
        (v.field "indexer").text?.bind fun sep =>
          (chainName? (v.field "identifier")).map fun leaf => base ++ sep ++ leaf := by
  rw [chainName?, if_neg (by simp [hk])]
  exact dif_pos (Value.isText_iff.2 hk)

theorem chainName?_of_kind_ne (hi : kindOf v ≠ .str "Identifier")
    (hm : kindOf v ≠ .str "MemberExpression") : chainName? v = none := by
  rw [chainName?]
  simp [hi, hm]

/-- The text of a separator is what it is written with. -/
theorem Separator.text?_of_ofValue? {w : Value} {sep : Separator} (h : ofValue? w = some sep) :
    w.text? = some sep.text := by
  unfold ofValue? at h
  split at h
  · cases h
    rfl
  · cases h
    rfl
  · cases h

/-- **A well-shaped node joins its name as its chain spells it.** -/
theorem Shaped.joinedName_eq (h : Shaped v) : DefUse.joinedName v = .ok (chainName? v) := by
  induction v using Value.sizeInduction with
  | step v ih =>
    have hrule := nameRule v
    generalize hr : DefUse.joinedName v = result at hrule
    cases hrule with
    | identifier hk hn hne => rw [chainName?_of_identifier hk, hn]; rfl
    | nameless hk hn =>
      obtain ⟨n, hname, hne⟩ := h.exists_name hk
      exact absurd (hn n hname) hne
    | unknownIndexer hk hs =>
      obtain ⟨sep, hsep⟩ := h.exists_separator hk
      cases hs.symm.trans hsep
    | member hk hs =>
      have hbase := ih _ (size_field_lt_of_kind hk "base") (h.part hk (by decide))
      have hleaf := ih _ (size_field_lt_of_kind hk "identifier") (h.part hk (by decide))
      rw [hbase, hleaf, chainName?_of_member hk, Separator.text?_of_ofValue? hs]
      cases chainName? (v.field "base") <;> cases chainName? (v.field "identifier") <;> rfl
    | other hi hm => rw [chainName?_of_kind_ne hi hm]

/-! ## Mentions -/

theorem isOneOf_eq_false_iff {texts : List String} :
    isOneOf texts v = false ↔ ∀ k ∈ texts, v ≠ .str k := by
  simp [isOneOf, List.any_eq_false]

/-- **What an expression mentions**: a name that it uses, or an expression there is no rule for. -/
inductive Mention where
  | use (name : String)
  | refusal (node : Value)

/-- The refusal of an expression there is no rule for; a member access is refused for its base. -/
def refusalOf (v : Value) : Failure :=
  .unsupported (kindOf v) .expression
    (if (kindOf v).isText "MemberExpression" then some (kindOf (v.field "base")) else none)

/-- Whether an operand is looked into: it spells a name, or there is a rule for its kind. -/
def isOperand (v : Value) : Bool :=
  (chainName? v).isSome || isOneOf (operandKinds ++ binaryKinds) (kindOf v)

/-- **The mentions of an expression**, from left to right. -/
def mentions (v : Value) : List Mention :=
  match chainName? v with
  | some n => [.use n]
  | none =>
    if isOneOf literalKinds (kindOf v) then []
    else if _ : (kindOf v).isText "CallExpression" then
      mentions (v.field "base") ++ (v.itemsAt "arguments").attach.flatMap fun w => mentions w.1
    else if _ : (kindOf v).isText "UnaryExpression" then mentions (v.field "argument")
    else if _ : isOneOf binaryKinds (kindOf v) then
      (if isOperand (v.field "left") then mentions (v.field "left") else []) ++
        if isOperand (v.field "right") then mentions (v.field "right") else []
    else [.refusal v]
termination_by v.size
decreasing_by
  · exact Value.size_field_lt _ (isRecord_of_kind (by assumption))
  · exact Value.size_lt_of_mem_itemsAt w.2
  · exact Value.size_field_lt _ (isRecord_of_kind (by assumption))
  · obtain ⟨k, -, hk⟩ := exists_of_isOneOf ‹_›
    exact size_field_lt_of_kind hk _
  · obtain ⟨k, -, hk⟩ := exists_of_isOneOf ‹_›
    exact size_field_lt_of_kind hk _

theorem mentions_of_some (h : chainName? v = some n) : mentions v = [.use n] := by
  rw [mentions, h]

/-- The mentions of what spells no name, as one choice by the kind. -/
theorem mentions_of_none (h : chainName? v = none) :
    mentions v =
      if isOneOf literalKinds (kindOf v) then []
      else if (kindOf v).isText "CallExpression" then
        mentions (v.field "base") ++ (v.itemsAt "arguments").flatMap mentions
      else if (kindOf v).isText "UnaryExpression" then mentions (v.field "argument")
      else if isOneOf binaryKinds (kindOf v) then
        (if isOperand (v.field "left") then mentions (v.field "left") else []) ++
          if isOperand (v.field "right") then mentions (v.field "right") else []
      else [.refusal v] := by
  rw [mentions, h, ← flatMap_attach (v.itemsAt "arguments") mentions]
  rfl

theorem chainName?_of_kind (hk : kindOf v = .str k)
    (hne : k ≠ "Identifier" ∧ k ≠ "MemberExpression") : chainName? v = none :=
  chainName?_of_kind_ne (by simpa [hk] using hne.1) (by simpa [hk] using hne.2)

theorem mentions_literal (hk : kindOf v = .str k) (hmem : k ∈ literalKinds) : mentions v = [] := by
  have hne : ∀ k ∈ literalKinds, k ≠ "Identifier" ∧ k ≠ "MemberExpression" := by decide
  rw [mentions_of_none (chainName?_of_kind hk (hne k hmem))]
  simp [hk, hmem]

theorem mentions_call (hk : kindOf v = .str "CallExpression") :
    mentions v = mentions (v.field "base") ++ (v.itemsAt "arguments").flatMap mentions := by
  rw [mentions_of_none (chainName?_of_kind hk (by decide))]
  simp [hk, literalKinds]

theorem mentions_unary (hk : kindOf v = .str "UnaryExpression") :
    mentions v = mentions (v.field "argument") := by
  rw [mentions_of_none (chainName?_of_kind hk (by decide))]
  simp [hk, literalKinds]

theorem mentions_binary (hk : kindOf v = .str k) (hmem : k ∈ binaryKinds) :
    mentions v =
      (if isOperand (v.field "left") then mentions (v.field "left") else []) ++
        if isOperand (v.field "right") then mentions (v.field "right") else [] := by
  have hne : ∀ k ∈ binaryKinds, (k ≠ "Identifier" ∧ k ≠ "MemberExpression") ∧
      k ∉ literalKinds ∧ k ≠ "CallExpression" ∧ k ≠ "UnaryExpression" := by decide
  obtain ⟨hname, hliteral, hcall, hunary⟩ := hne k hmem
  rw [mentions_of_none (chainName?_of_kind hk hname)]
  simp [hk, hmem, hliteral, hcall, hunary]

/-- What spells no name and has no rule is refused. -/
theorem mentions_refused (h : chainName? v = none)
    (hk : ∀ k ∈ operandKinds ++ binaryKinds, kindOf v ≠ .str k) : mentions v = [.refusal v] := by
  have hliteral : isOneOf literalKinds (kindOf v) = false :=
    isOneOf_eq_false_iff.2 fun k hmem => hk k (by simp [operandKinds, hmem])
  have hbinary : isOneOf binaryKinds (kindOf v) = false :=
    isOneOf_eq_false_iff.2 fun k hmem => hk k (List.mem_append_right _ hmem)
  rw [mentions_of_none h]
  simp [hliteral, hbinary, hk "CallExpression" (by decide), hk "UnaryExpression" (by decide)]

/-! ## Steps -/

namespace Step

/-- A step that looks at names: it defines nothing and opens no scope. -/
def looks : Step → Bool
  | .use _ | .ignore _ | .stop _ => true
  | .enter _ | .declare _ _ | .define _ _ | .assign _ | .derive _ _ | .function _ => false

/-- Whether a step leaves more than an event. -/
def isRecorded : Step → Bool
  | .ignore _ => false
  | _ => true

end Step

/-- The step a mention comes down to. -/
def Mention.step : Mention → Step
  | .use n => .use n
  | .refusal v => .stop (refusalOf v)

theorem looks_operandSteps (h : ∀ step ∈ expressionSteps v, step.looks = true) :
    ∀ step ∈ operandSteps v, step.looks = true := by
  by_cases hi : Ignored v
  · rw [operandSteps_of_ignored hi]
    exact List.forall_mem_singleton.2 rfl
  · rw [operandSteps_of_not_ignored hi]
    exact h

/-- **The steps of an expression only look at names**, whatever the expression. -/
theorem looks_expressionSteps (v : Value) : ∀ step ∈ expressionSteps v, step.looks = true := by
  induction v using Value.sizeInduction with
  | step v ih =>
    have hrule := expressionRule v
    generalize expressionSteps v = steps at hrule
    cases hrule with
    | value | fault | name | notAKey | member | unknown => exact List.forall_mem_singleton.2 rfl
    | literal => exact List.forall_mem_nil _
    | call hk =>
      refine List.forall_mem_append.2 ⟨ih _ (size_field_lt_of_kind hk "base"), ?_⟩
      unfold stepsAt
      split
      · exact List.forall_mem_singleton.2 rfl
      · rename_i items hitems
        intro step hstep
        obtain ⟨w, hw, hstep⟩ := List.mem_flatMap.1 hstep
        exact ih w (Value.size_itemsAt_lt _ hitems hw) step hstep
    | binary hk =>
      exact List.forall_mem_append.2
        ⟨looks_operandSteps (ih _ (size_field_lt_of_kind hk "left")),
          looks_operandSteps (ih _ (size_field_lt_of_kind hk "right"))⟩
    | unary hk => exact ih _ (size_field_lt_of_kind hk "argument")

/-- A well-shaped operand is ignored exactly if it is not looked into. -/
theorem Shaped.ignored_iff_isOperand (h : Shaped v) : Ignored v ↔ isOperand v = false := by
  obtain ⟨o, ho, hchain⟩ := h.joinedName
  obtain rfl : o = chainName? v := Except.ok.inj (ho.symm.trans h.joinedName_eq)
  rw [h.ignored_iff, isOperand, Bool.or_eq_false_iff, isOneOf_eq_false_iff, ← hchain,
    Bool.not_eq_true]
  rfl

/-- The recorded steps of an operand are its mentions if it is looked into. -/
theorem filter_operandSteps (hv : Shaped v)
    (h : (expressionSteps v).filter Step.isRecorded = (mentions v).map Mention.step) :
    (operandSteps v).filter Step.isRecorded =
      (if isOperand v then mentions v else []).map Mention.step := by
  by_cases hi : Ignored v
  · rw [operandSteps_of_ignored hi, hv.ignored_iff_isOperand.1 hi]
    rfl
  · have ho : isOperand v = true := by simpa using fun he => hi (hv.ignored_iff_isOperand.2 he)
    rw [operandSteps_of_not_ignored hi, ho, h]
    rfl

/-- One rule of expressions records the mentions of a well-shaped node, given that smaller nodes
have theirs recorded. -/
theorem filter_of_expressionRule {steps : List Step} (hv : Shaped v)
    (ih : ∀ w, w.size < v.size → Shaped w →
      (expressionSteps w).filter Step.isRecorded = (mentions w).map Mention.step)
    (hrule : ExpressionRule v steps) :
    steps.filter Step.isRecorded = (mentions v).map Mention.step := by
  have hname := hv.joinedName_eq
  have hpart : ∀ {k key : String}, kindOf v = .str k → key ∈ nodeFields k →
      (expressionSteps (v.field key)).filter Step.isRecorded =
        (mentions (v.field key)).map Mention.step := fun hk hkey =>
    ih _ (size_field_lt_of_kind hk _) (hv.part hk hkey)
  cases hrule with
  | value hr => exact absurd hv.isRecord (by simp [hr])
  | fault h => cases h.symm.trans hname
  | name h =>
    rw [mentions_of_some (Except.ok.inj (hname.symm.trans h))]
    rfl
  | call hk =>
    have hitems : "arguments" ∈ listFields "CallExpression" := by decide
    rw [mentions_call hk, List.map_append, List.filter_append, hpart hk (by decide), stepsAt,
      hv.itemsAt?_eq hk hitems]
    congr 1
    simp only [List.filter_flatMap, List.map_flatMap]
    exact List.flatMap_congr fun w hw =>
      ih w (Value.size_lt_of_mem_itemsAt hw) (hv.item hk hitems hw)
  | notAKey hk =>
    obtain ⟨k, hk'⟩ := hv.exists_kind
    simp [hk', isKey] at hk
  | literal hk hmem => rw [mentions_literal hk hmem]; rfl
  | binary hk hmem =>
    have hfields : ∀ k ∈ binaryKinds, "left" ∈ nodeFields k ∧ "right" ∈ nodeFields k := by decide
    obtain ⟨hleft, hright⟩ := hfields _ hmem
    rw [mentions_binary hk hmem, List.map_append, List.filter_append,
      filter_operandSteps (hv.part hk hleft) (hpart hk hleft),
      filter_operandSteps (hv.part hk hright) (hpart hk hright)]
  | unary hk => rw [mentions_unary hk, hpart hk (by decide)]
  | member h hk =>
    have hother : ∀ k ∈ operandKinds ++ binaryKinds, k ≠ "MemberExpression" := by decide
    rw [mentions_refused (Except.ok.inj (hname.symm.trans h)) fun k hmem he =>
      hother k hmem (Value.str.inj (he.symm.trans hk))]
    simp [Mention.step, refusalOf, hk, Step.isRecorded]
  | unknown hr h hk =>
    rw [mentions_refused (Except.ok.inj (hname.symm.trans h)) fun k hmem =>
      hk k (List.mem_cons_of_mem _ hmem)]
    simp [Mention.step, refusalOf, hk "MemberExpression" (by decide), Step.isRecorded]

/-- **The steps of a well-shaped expression are its mentions**, apart from ignored operands. -/
theorem filter_expressionSteps (h : Shaped v) :
    (expressionSteps v).filter Step.isRecorded = (mentions v).map Mention.step := by
  induction v using Value.sizeInduction with
  | step v ih => exact filter_of_expressionRule h ih (expressionRule v)

/-! ## Recording -/

/-- The failure that a mention ends a check with, if it does. -/
def Mention.failure? : Mention → Option Failure
  | .use _ => none
  | .refusal v => some (refusalOf v)

/-- Whether an event tells of an ignored operand. -/
def Event.isIgnored : Event → Bool
  | .ignored _ => true
  | _ => false

namespace Session

variable {s : Session} {d : Int}

/-- **Record mentions** one after the other, up to the first refusal. -/
def recordAll (s : Session) (d : Int) : List Mention → Outcome
  | [] => (none, s)
  | .use n :: rest => Outcome.andThen (s.use n d) fun s => s.recordAll d rest
  | .refusal v :: _ => (some (refusalOf v), s)

/-- The session with ignored operands left out of its trace. -/
def withoutIgnored (s : Session) : Session :=
  { s with events := s.events.filter (!·.isIgnored) }

theorem withoutIgnored_warn (f : Finding) :
    (s.warn f).withoutIgnored = s.withoutIgnored.warn f := by
  unfold warn withoutIgnored
  dsimp only
  split <;> rfl

end Session

/-- The outcome with ignored operands left out of the trace. -/
def Outcome.withoutIgnored (o : Outcome) : Outcome := (o.1, o.2.withoutIgnored)

theorem Outcome.withoutIgnored_andThen {o : Outcome} {next next' : Session → Outcome}
    (h : ∀ s, (next s).withoutIgnored = next' s.withoutIgnored) :
    (o.andThen next).withoutIgnored = o.withoutIgnored.andThen next' := by
  obtain ⟨failure, s⟩ := o
  cases failure with
  | none => exact h s
  | some f => rfl

namespace Session

variable {s : Session} {d : Int}

/-- Using a name goes by what is no part of the trace. -/
theorem withoutIgnored_use (s : Session) (n : String) (d : Int) :
    (s.use n d).withoutIgnored = s.withoutIgnored.use n d := by
  unfold use
  rw [show s.withoutIgnored.scopes = s.scopes from rfl]
  cases s.scopes.use n d with
  | error f => rfl
  | ok r =>
    obtain ⟨seen, scopes⟩ := r
    cases seen with
    | true => rfl
    | false => exact Prod.ext rfl (withoutIgnored_warn _)

theorem defined_use (s : Session) (n : String) (d : Int) :
    (s.use n d).2.scopes.defined = s.scopes.defined := by
  unfold use
  split
  · rfl
  · rename_i seen scopes h
    obtain ⟨k, -, -, rfl⟩ := Scopes.use_eq_ok_iff.1 h
    cases seen with
    | true => rfl
    | false =>
      simp only [Bool.false_eq_true, if_false, scopes_warn]

/-- Recording mentions is carrying out their steps. -/
theorem performAll_map_step (d : Int) (ms : List Mention) :
    ∀ s : Session, Step.performAll d (ms.map Mention.step) s = s.recordAll d ms := by
  induction ms with
  | nil => exact fun _ => rfl
  | cons m rest ih =>
    intro s
    cases m with
    | use n => exact congrArg (Outcome.andThen (s.use n d)) (funext ih)
    | refusal v => rfl

end Session

namespace Step

/-- **Ignored operands leave nothing but an event**: without them, the steps that look at names come
to the same. -/
theorem withoutIgnored_performAll (d : Int) :
    ∀ (steps : List Step) (s : Session), (∀ step ∈ steps, step.looks = true) →
      (performAll d steps s).withoutIgnored =
        performAll d (steps.filter isRecorded) s.withoutIgnored
  | [], _, _ => rfl
  | step :: rest, s, h => by
    have hrest := fun s => withoutIgnored_performAll d rest s (List.forall_mem_cons.1 h).2
    cases step with
    | use n =>
      rw [performAll, List.filter_cons_of_pos rfl, performAll]
      exact (Outcome.withoutIgnored_andThen hrest).trans
        (congrArg (Outcome.andThen · _) (s.withoutIgnored_use n d))
    | ignore kind => exact hrest (s.note (.ignored kind))
    | stop f => rfl
    | enter | declare | define | assign | derive | function =>
      exact absurd (List.forall_mem_cons.1 h).1 (by simp [looks])

/-- Steps that look at names define nothing. -/
theorem defined_performAll (d : Int) :
    ∀ (steps : List Step) (s : Session), (∀ step ∈ steps, step.looks = true) →
      (performAll d steps s).2.scopes.defined = s.scopes.defined
  | [], _, _ => rfl
  | step :: rest, s, h => by
    have hrest := fun s => defined_performAll d rest s (List.forall_mem_cons.1 h).2
    cases step with
    | use n =>
      refine .trans ?_ (s.defined_use n d)
      rw [performAll, perform]
      rcases s.use n d with ⟨_ | f, t⟩
      · exact hrest t
      · rfl
    | ignore kind => exact hrest (s.note (.ignored kind))
    | stop f => rfl
    | enter | declare | define | assign | derive | function =>
      exact absurd (List.forall_mem_cons.1 h).1 (by simp [looks])

end Step

namespace Session

variable {s : Session} {d : Int}

/-- Names are recorded wherever a scope is open, so that only a refusal is a failure. -/
theorem failure_recordAll (ms : List Mention) :
    ∀ {s : Session}, s.scopes.Balanced → s.scopes.IsOpen d →
      (s.recordAll d ms).1 = ms.findSome? Mention.failure? := by
  induction ms with
  | nil => exact fun _ _ => rfl
  | cons m rest ih =>
    intro s h hd
    cases m with
    | refusal v => rfl
    | use n =>
      have hframe : s.scopes.Frame d (s.use n d).2.scopes := frame_use h
      rw [recordAll, List.findSome?_cons]
      rw [use_of_isOpen h hd] at hframe ⊢
      exact ih (hframe.balanced h) (hframe.isOpen hd)

theorem withoutIgnored_recordAll (s : Session) (d : Int) (ms : List Mention) :
    (s.recordAll d ms).withoutIgnored = s.withoutIgnored.recordAll d ms := by
  have hlooks : ∀ step ∈ ms.map Mention.step, step.looks = true :=
    List.forall_mem_map.2 fun m _ => by cases m <;> rfl
  have hrecorded : (ms.map Mention.step).filter Step.isRecorded = ms.map Mention.step :=
    List.filter_eq_self.2 (List.forall_mem_map.2 fun m _ => by cases m <;> rfl)
  rw [← performAll_map_step, ← performAll_map_step, Step.withoutIgnored_performAll d _ s hlooks,
    hrecorded]

/-- Checking a well-shaped expression records its mentions, but for events of ignored operands. -/
theorem withoutIgnored_checkExpression (s : Session) (d : Int) (hv : Shaped v) :
    (s.checkExpression v d).withoutIgnored = (s.recordAll d (mentions v)).withoutIgnored := by
  rw [withoutIgnored_recordAll, ← performAll_map_step, ← filter_expressionSteps hv]
  exact Step.withoutIgnored_performAll d _ s (looks_expressionSteps v)

/-- **An expression records exactly its mentions, from left to right**, up to the first one there is
no rule for, which ends the check; it defines nothing. -/
theorem checkExpression_records_mentions (s : Session) (d : Int) (v : Value)
    (h : s.scopes.Balanced) (hd : s.scopes.IsOpen d) (hv : Shaped v) :
    (s.checkExpression v d).withoutIgnored = (s.recordAll d (mentions v)).withoutIgnored ∧
      (s.checkExpression v d).1 = (mentions v).findSome? Mention.failure? ∧
      ((s.checkExpression v d).1 = none ↔ ∀ w, .refusal w ∉ mentions v) ∧
      (s.checkExpression v d).2.scopes.defined = s.scopes.defined := by
  have heffect := withoutIgnored_checkExpression s d hv
  have hfailure : (s.checkExpression v d).1 = (mentions v).findSome? Mention.failure? :=
    (congrArg Prod.fst heffect).trans (failure_recordAll _ h hd)
  refine ⟨heffect, hfailure, ?_, Step.defined_performAll d _ s (looks_expressionSteps v)⟩
  rw [hfailure, List.findSome?_eq_none_iff]
  refine ⟨fun hnone w hw => ?_, fun hnot m hm => ?_⟩
  · cases hnone _ hw
  · cases m with
    | use n => rfl
    | refusal w => exact absurd hm (hnot w)

/-- The call `f(x + {}, {})`: the operand of no known kind is ignored, the argument is not. -/
theorem checkExpression_records_mentions_call :
    let callee : Value := .record [("type", .str "Identifier"), ("name", .str "f")]
    let name : Value := .record [("type", .str "Identifier"), ("name", .str "x")]
    let table : Value := .record [("type", .str "TableConstructorExpression")]
    let sum : Value := .record [("type", .str "BinaryExpression"), ("left", name), ("right", table)]
    let call : Value := .record
      [("type", .str "CallExpression"), ("base", callee), ("arguments", .list [sum, table])]
    let s : Session := start .bundled .null
    (s.scopes.Balanced ∧ s.scopes.IsOpen 0 ∧ Shaped call) ∧
      (s.checkExpression call 0).withoutIgnored =
        (s.recordAll 0 (mentions call)).withoutIgnored ∧
      (s.checkExpression call 0).1 = (mentions call).findSome? Mention.failure? ∧
      ((s.checkExpression call 0).1 = none ↔ ∀ w, .refusal w ∉ mentions call) ∧
      (s.checkExpression call 0).2.scopes.defined = s.scopes.defined := by
  intro callee name table sum call s
  have hs : s.scopes.Balanced := (fresh_start .bundled .null).balanced
  have hidentifier : ∀ n : String, n ≠ "" →
      Shaped (.record [("type", .str "Identifier"), ("name", .str n)]) := fun n hn => by
    refine .node (k := "Identifier") rfl (fun _ => rfl) (fun _ => ⟨n, rfl, hn⟩) ?_ ?_ ?_ ?_ ?_ ?_ ?_
    all_goals simp [listFields, nodeFields, blockKinds]
  have htable : Shaped table := by
    refine .node (k := "TableConstructorExpression") rfl (fun _ => rfl) ?_ ?_ ?_ ?_ ?_ ?_ ?_ ?_
    all_goals simp [listFields, nodeFields, blockKinds]
  have hsum : Shaped sum := by
    refine .node (k := "BinaryExpression") rfl ?_ ?_ ?_ ?_ ?_ ?parts ?_ ?_ ?_
    case parts =>
      exact List.forall_mem_cons.2 ⟨hidentifier "x" (by decide), List.forall_mem_singleton.2 htable⟩
    all_goals simp [listFields, binaryKinds, blockKinds]
  have hcall : Shaped call := by
    refine .node (k := "CallExpression") rfl (fun _ => rfl) ?_ ?_ ?lists ?items ?parts ?_ ?_ ?_
    case lists =>
      exact List.forall_mem_singleton.2 fun w hw => ⟨[sum, table], (Option.some.inj hw).symm⟩
    case items =>
      exact List.forall_mem_singleton.2
        (List.forall_mem_cons.2 ⟨hsum, List.forall_mem_singleton.2 htable⟩)
    case parts => exact List.forall_mem_singleton.2 (hidentifier "f" (by decide))
    all_goals simp [blockKinds]
  exact ⟨⟨hs, hs.isOpen_zero, hcall⟩,
    checkExpression_records_mentions s 0 call hs hs.isOpen_zero hcall⟩

end Session

/-! ## Operands -/

/-- **A binary expression without its left operand**, which no source has. -/
def LacksLeft (v : Value) : Prop :=
  (∃ k ∈ binaryKinds, kindOf v = .str k) ∧ (v.field "left").isNull = true

theorem ignored_of_lacksLeft (h : LacksLeft v) : Ignored v := by
  obtain ⟨⟨k, hmem, hk⟩, hleft⟩ := h
  have hne : ∀ k ∈ binaryKinds, k ≠ "Identifier" ∧ k ≠ "MemberExpression" ∧ k ∉ operandKinds := by
    decide
  obtain ⟨hi, hm, ho⟩ := hne k hmem
  exact {
    nameless := joinedName_of_kind_ne (by simpa [hk] using hi) (by simpa [hk] using hm)
    simple := hleft
    isKey := by rw [hk]; rfl
    kind := by simpa [hk] using ho }

namespace Session

variable {s : Session} {d : Int}

/-- **Only a binary expression without its left operand is ignored as an operand and accepted on its
own.** -/
theorem lacksLeft_of_ignored (hi : Ignored v) (h : (s.checkExpression v d).1 = none) :
    LacksLeft v := by
  have hkind : ∀ k ∈ operandKinds, kindOf v ≠ .str k := isOneOf_eq_false_iff.1 hi.kind
  have hrule := expressionRule v
  unfold checkExpression at h
  generalize expressionSteps v = steps at hrule h
  cases hrule with
  | value | fault | notAKey | member | unknown => cases h
  | name hn => cases hn.symm.trans hi.nameless
  | call hk => exact absurd hk (hkind _ (by decide))
  | literal hk hmem => exact absurd hk (hkind _ (by simp [operandKinds, hmem]))
  | unary hk => exact absurd hk (hkind _ (by decide))
  | binary hk hmem => exact ⟨⟨_, hmem, hk⟩, hi.simple⟩

/-- **An expression that is accepted on its own is accepted as an operand**, with the same effect,
unless it is a binary expression without its left operand, which is ignored. -/
theorem checkOperand_of_checkExpression (s : Session) (d : Int) (v : Value)
    (h : (s.checkExpression v d).1 = none) :
    (s.checkOperand v d).1 = none ∧
      (¬ LacksLeft v → s.checkOperand v d = s.checkExpression v d) ∧
      (LacksLeft v → s.checkOperand v d = (none, s.note (.ignored (kindOf v)))) := by
  have hsame : ¬ LacksLeft v → s.checkOperand v d = s.checkExpression v d := fun hv => by
    have hi : ¬ Ignored v := fun hi => hv (lacksLeft_of_ignored hi h)
    rw [checkOperand, operandSteps_of_not_ignored hi, checkExpression]
  have hignored : LacksLeft v → s.checkOperand v d = (none, s.note (.ignored (kindOf v))) :=
    fun hv => by
      rw [checkOperand, operandSteps_of_ignored (ignored_of_lacksLeft hv)]
      rfl
  refine ⟨?_, hsame, hignored⟩
  by_cases hv : LacksLeft v
  · rw [hignored hv]
  · rw [hsame hv, h]

/-- The sum of two names, both of which are used. -/
theorem checkOperand_of_checkExpression_sum :
    let left : Value := .record [("type", .str "Identifier"), ("name", .str "x")]
    let right : Value := .record [("type", .str "Identifier"), ("name", .str "y")]
    let sum : Value := .record [("type", .str "BinaryExpression"), ("left", left), ("right", right)]
    let s : Session := start { Settings.bundled with globals := [] } .null
    (s.checkExpression sum 0).1 = none ∧ ¬ LacksLeft sum ∧
      s.checkOperand sum 0 = s.checkExpression sum 0 ∧
      (s.checkOperand sum 0).2.findings = [⟨.undefinedUse, "x"⟩, ⟨.undefinedUse, "y"⟩] := by
  intro left right sum s
  have hnone : (s.checkExpression sum 0).1 = none := by decide +kernel
  have hleft : ¬ LacksLeft sum := fun h => by cases h.2
  have hsame := (checkOperand_of_checkExpression s 0 sum hnone).2.1 hleft
  exact ⟨hnone, hleft, hsame, by decide +kernel⟩

/-- A sum that has only its right operand uses it on its own and ignores it as an operand. -/
theorem operand_without_left_ignored :
    let right : Value := .record [("type", .str "Identifier"), ("name", .str "x")]
    let sum : Value := .record [("type", .str "BinaryExpression"), ("right", right)]
    let s : Session := start { Settings.bundled with globals := [] } .null
    s.scopes.IsOpen 0 ∧ (s.checkExpression sum 0).1 = none ∧
      (s.checkExpression sum 0).2.findings = [⟨.undefinedUse, "x"⟩] ∧
      (s.checkOperand sum 0).1 = none ∧ (s.checkOperand sum 0).2.findings = [] ∧
      (s.checkExpression sum 0).2.scopes ≠ (s.checkOperand sum 0).2.scopes := by
  intro right sum s
  decide +kernel

end Session

end DefUse
