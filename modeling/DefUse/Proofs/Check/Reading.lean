import Mathlib.Data.List.Forall2
import Mathlib.Data.Option.Basic
import DefUse.Proofs.Check.Grammar
import DefUse.Proofs.Check.Lockstep

/-!
# Proofs/Check/Reading — trees that read alike ask for the same steps

The steps of a tree are read off some of its fields, and what is read depends on what the value is
read as: a node, the statements of a node, or a clause.  A `Reading` is a relation between the
values of two trees, one for each of these, under which every read gives related values.  The second
tree may spell its names otherwise and differ wherever nothing is read.

`Reading.blockSteps` is the conclusion: trees so related ask for the same steps, up to the spelling
of the names in them.
-/

namespace DefUse

/-- What a value is read as. -/
inductive Role where
  | node
  /-- The statements of a node. -/
  | block
  | clause

/-- What the items of a field are read as. -/
def itemRole (key : String) : Role := if key = "clauses" then .clause else .node

/-- **What is read when a value is read as something.** -/
inductive Reads : Role × Value → Role × Value → Prop
  | part {v : Value} {k key : String} (hk : kindOf v = .str k) (hkey : key ∈ nodeFields k) :
      Reads (.node, v) (.node, v.field key)
  | item {v w : Value} {k key : String} (hk : kindOf v = .str k) (hkey : key ∈ listFields k)
      (hw : w ∈ v.itemsAt key) : Reads (.node, v) (itemRole key, w)
  | functionName {v : Value} (hk : kindOf v = .str "FunctionDeclaration")
      (hne : v.field "identifier" ≠ .null) : Reads (.node, v) (.node, v.field "identifier")
  | functionBody {v : Value} (hk : kindOf v = .str "FunctionDeclaration") :
      Reads (.node, v) (.block, v)
  | statement {v w : Value} (hw : w ∈ v.itemsAt "body") : Reads (.block, v) (.node, w)
  | condition {v : Value} (hne : v.field "condition" ≠ .null) :
      Reads (.clause, v) (.node, v.field "condition")
  | clauseBody {v : Value} : Reads (.clause, v) (.block, v)

/-- Whether a failure tells of kinds alone. -/
def Failure.isOfKinds : Failure → Bool
  | .unsupported _ _ _ | .noBody _ | .notASequence | .kindNotAKey | .clauseNotANode
  | .recordNotIndexed => true
  | _ => false

/-- **Fields that are gone through alike**: both absent, lists of related items, or something else
in the place of a list that gives related items. -/
inductive FieldAlike (R : Value → Value → Prop) : Option Value → Option Value → Prop
  | absent : FieldAlike R none none
  | list {items items' : List Value} (h : List.Forall₂ R items items') :
      FieldAlike R (some (.list items)) (some (.list items'))
  | other {v w : Value} (hv : ∀ items, v ≠ .list items) (hw : ∀ items, w ≠ .list items)
      (single : (∃ f, v = .record [f]) ↔ ∃ f, w = .record [f])
      (items : Option.Rel (List.Forall₂ R) v.items? w.items?) : FieldAlike R (some v) (some w)

/-- Nodes that may be left out: both are, or they are related. -/
def OptionalAlike (R : Value → Value → Prop) (v w : Value) : Prop :=
  w.isNull = v.isNull ∧ (v ≠ .null → R v w)

/-- **A reading**: a relation between the values of two trees that every read keeps, the names of
the second tree being spelled otherwise by `ρ` and its failures told otherwise by `φ`. -/
structure Reading (ρ : String → String) (φ : Failure → Failure)
    (S : Role → Value → Value → Prop) : Prop where
  join (base leaf : String) (sep : Separator) :
    ρ (base ++ sep.text ++ leaf) = ρ base ++ sep.text ++ ρ leaf
  self : ρ "self" = "self"
  ofKinds {f : Failure} (h : f.isOfKinds = true) : φ f = f
  kind {role : Role} {v w : Value} (h : S role v w) : kindOf w = kindOf v
  isRecord {role : Role} {v w : Value} (h : S role v w) : w.isRecord = v.isRecord
  notANode {v w : Value} (h : S .node v w) (hv : v.isRecord = false) :
    φ (.notANode v) = .notANode w
  left {v w : Value} (h : S .node v w) : (w.field "left").isNull = (v.field "left").isNull
  name {v w : Value} (h : S .node v w) (hk : kindOf v = .str "Identifier") :
    identifierName w = ((identifierName v).map ρ).mapError φ
  indexer {v w : Value} (h : S .node v w) (hk : kindOf v = .str "MemberExpression") :
    Separator.ofValue? (w.field "indexer") = Separator.ofValue? (v.field "indexer")
  unknownIndexer {v w : Value} (h : S .node v w) (hk : kindOf v = .str "MemberExpression")
    (hv : Separator.ofValue? (v.field "indexer") = none) :
    φ (.unknownIndexer (v.field "indexer")) = .unknownIndexer (w.field "indexer")
  part {v w : Value} {k : String} (h : S .node v w) (hk : kindOf v = .str k) (key : String)
    (hkey : key ∈ nodeFields k) : S .node (v.field key) (w.field key)
  items {v w : Value} {k : String} (h : S .node v w) (hk : kindOf v = .str k) (key : String)
    (hkey : key ∈ listFields k) : FieldAlike (S (itemRole key)) (v.get? key) (w.get? key)
  functionName {v w : Value} (h : S .node v w) (hk : kindOf v = .str "FunctionDeclaration") :
    OptionalAlike (S .node) (v.field "identifier") (w.field "identifier")
  isLocal {v w : Value} (h : S .node v w) (hk : kindOf v = .str "FunctionDeclaration") :
    (w.field "isLocal").truthy = (v.field "isLocal").truthy
  functionBody {v w : Value} (h : S .node v w) (hk : kindOf v = .str "FunctionDeclaration") :
    S .block v w
  body {v w : Value} (h : S .block v w) : FieldAlike (S .node) (v.get? "body") (w.get? "body")
  condition {v w : Value} (h : S .clause v w) :
    OptionalAlike (S .node) (v.field "condition") (w.field "condition")
  clauseBody {v w : Value} (h : S .clause v w) : S .block v w

theorem Separator.ofValue?_eq_colon {v : Value} : ofValue? v = some colon ↔ v = .str ":" := by
  unfold ofValue?
  split <;> simp_all

theorem FieldAlike.itemsAt? {R : Value → Value → Prop} {v w : Value} {key : String}
    (h : FieldAlike R (v.get? key) (w.get? key)) :
    Option.Rel (List.Forall₂ R) (v.itemsAt? key) (w.itemsAt? key) := by
  unfold Value.itemsAt?
  generalize v.get? key = field at h
  generalize w.get? key = field' at h
  cases h with
  | absent => exact .some .nil
  | list h => exact .some h
  | other _ _ _ items => exact items

namespace Reading

open Step (mapAll)

variable {ρ : String → String} {φ : Failure → Failure} {S : Role → Value → Value → Prop}
variable {v w : Value} {k key : String}

/-! ## Names -/

/-- **Related nodes spell the same name**, up to the spelling, or have the same fault. -/
theorem joinedName (h : Reading ρ φ S) (hS : S .node v w) :
    joinedName w = ((joinedName v).map (Option.map ρ)).mapError φ := by
  induction v using Value.sizeInduction generalizing w with
  | step v ih =>
    have hkind := h.kind hS
    by_cases hi : kindOf v = .str "Identifier"
    · rw [joinedName_of_identifier hi, joinedName_of_identifier (hkind.trans hi), h.name hS hi]
      cases identifierName v <;> rfl
    · by_cases hm : kindOf v = .str "MemberExpression"
      · have hbase := ih _ (size_field_lt_of_kind hm "base") (h.part hS hm _ (by decide))
        have hleaf := ih _ (size_field_lt_of_kind hm "identifier") (h.part hS hm _ (by decide))
        rw [joinedName_of_member hm, joinedName_of_member (hkind.trans hm), h.indexer hS hm]
        cases hsep : Separator.ofValue? (v.field "indexer") with
        | none => exact congrArg Except.error (h.unknownIndexer hS hm hsep).symm
        | some sep =>
          simp only [hbase, hleaf]
          rcases DefUse.joinedName (v.field "base") with f | _ | base <;>
            rcases DefUse.joinedName (v.field "identifier") with f' | _ | leaf <;>
            simp [joinLinks, Except.map, Except.mapError, h.join]
      · rw [joinedName_of_kind_ne hi hm,
          joinedName_of_kind_ne (hkind ▸ hi) (hkind ▸ hm)]
        rfl

theorem requireName (h : Reading ρ φ S) (hS : S .node v w) (place : Place) :
    requireName place w = ((requireName place v).map ρ).mapError φ := by
  rw [DefUse.requireName, DefUse.requireName, h.joinedName hS, h.kind hS]
  rcases DefUse.joinedName v with f | _ | n
  · rfl
  · exact congrArg Except.error (h.ofKinds rfl).symm
  · rfl

theorem requireNames (h : Reading ρ φ S) {items items' : List Value}
    (hS : List.Forall₂ (S .node) items items') (place : Place) :
    requireNames place items' = ((requireNames place items).map (List.map ρ)).mapError φ := by
  induction hS with
  | nil => rfl
  | @cons v w rest rest' hv _ ih =>
    rw [DefUse.requireNames, DefUse.requireNames, ih, h.requireName hv]
    rcases DefUse.requireName place v with f | n
    · rfl
    · rcases DefUse.requireNames place rest with f | names <;> rfl

theorem ofName (h : Reading ρ φ S) (hS : S .node v w) (place : Place) {step : String → Step}
    (hstep : ∀ n, step (ρ n) = (step n).map ρ φ) :
    Step.ofName step (DefUse.requireName place w) =
      (Step.ofName step (DefUse.requireName place v)).map ρ φ := by
  rw [h.requireName hS]
  rcases DefUse.requireName place v with f | n
  · simp [Step.ofName, Step.map, Except.map, Except.mapError]
  · exact hstep n

/-! ## Items -/

theorem flatMap {R : Value → Value → Prop} {steps : Value → List Step} {items items' : List Value}
    (hitems : List.Forall₂ R items items')
    (hsteps : ∀ x ∈ items, ∀ y, R x y → steps y = mapAll ρ φ (steps x)) :
    items'.flatMap steps = mapAll ρ φ (items.flatMap steps) := by
  induction hitems with
  | nil => simp
  | @cons v w rest rest' hv _ ih =>
    rw [List.forall_mem_cons] at hsteps
    rw [List.flatMap_cons, List.flatMap_cons, Step.mapAll_append, hsteps.1 w hv, ih hsteps.2]

/-- The steps of the items of a field. -/
theorem stepsAt (h : Reading ρ φ S) {R : Value → Value → Prop} {steps : Value → List Step}
    (hfield : FieldAlike R (v.get? key) (w.get? key))
    (hsteps : ∀ x ∈ v.itemsAt key, ∀ y, R x y → steps y = mapAll ρ φ (steps x)) :
    stepsAt steps key w = mapAll ρ φ (stepsAt steps key v) := by
  have hitems := hfield.itemsAt?
  unfold Value.itemsAt at hsteps
  unfold DefUse.stepsAt
  generalize v.itemsAt? key = items at hitems hsteps
  generalize w.itemsAt? key = items' at hitems
  cases hitems with
  | none => simp [Step.map, h.ofKinds (f := .notASequence) rfl]
  | some hitems => exact flatMap hitems hsteps

/-! ## Expressions -/

theorem ignored_iff (h : Reading ρ φ S) (hS : S .node v w) : Ignored w ↔ Ignored v := by
  have hname : DefUse.joinedName w = .ok none ↔ DefUse.joinedName v = .ok none := by
    rw [h.joinedName hS]
    rcases DefUse.joinedName v with f | _ | n <;> simp [Except.map, Except.mapError]
  have hkind := h.kind hS
  have hleft := h.left hS
  constructor
  · intro hw
    exact ⟨hname.1 hw.nameless, hleft ▸ hw.simple, hkind ▸ hw.isKey, hkind ▸ hw.kind⟩
  · intro hv
    exact ⟨hname.2 hv.nameless, hleft ▸ hv.simple, hkind ▸ hv.isKey, hkind ▸ hv.kind⟩

theorem operandSteps (h : Reading ρ φ S) (hS : S .node v w)
    (hsteps : expressionSteps w = mapAll ρ φ (expressionSteps v)) :
    operandSteps w = mapAll ρ φ (operandSteps v) := by
  by_cases hi : Ignored v
  · rw [operandSteps_of_ignored hi, operandSteps_of_ignored ((h.ignored_iff hS).2 hi), h.kind hS]
    simp [Step.map]
  · rw [operandSteps_of_not_ignored hi,
      operandSteps_of_not_ignored fun hw => hi ((h.ignored_iff hS).1 hw), hsteps]

/-- One step of the induction, on nodes that spell no name. -/
theorem expressionSteps_of_nameless (h : Reading ρ φ S) (hS : S .node v w) (hr : v.isRecord = true)
    (hname : DefUse.joinedName v = .ok none)
    (ih : ∀ x, x.size < v.size → ∀ {y}, S .node x y →
      expressionSteps y = mapAll ρ φ (expressionSteps x)) :
    expressionSteps w = mapAll ρ φ (expressionSteps v) := by
  have hnamew : DefUse.joinedName w = .ok none := by rw [h.joinedName hS, hname]; rfl
  have hpart : ∀ {k key : String}, kindOf v = .str k → key ∈ nodeFields k →
      expressionSteps (w.field key) = mapAll ρ φ (expressionSteps (v.field key)) :=
    fun hk hkey => ih _ (size_field_lt_of_kind hk _) (h.part hS hk _ hkey)
  rw [expressionSteps_of_none hr hname,
    expressionSteps_of_none ((h.isRecord hS).trans hr) hnamew, h.kind hS]
  split
  · rename_i hk
    have hk := Value.isText_iff.1 hk
    rw [Step.mapAll_append, hpart hk (by decide)]
    refine congrArg (_ ++ ·) (h.stepsAt (h.items hS hk _ (by decide)) fun x hx y hxy => ?_)
    exact ih x (Value.size_lt_of_mem_itemsAt hx) hxy
  · split
    · simp [Step.map, h.ofKinds (f := .kindNotAKey) rfl]
    · split
      · simp
      · split
        · obtain ⟨k, hmem, hk⟩ := exists_of_isOneOf ‹_›
          have hfields : ∀ k ∈ binaryKinds, "left" ∈ nodeFields k ∧ "right" ∈ nodeFields k := by
            decide
          have hleft := (hfields k hmem).1
          have hright := (hfields k hmem).2
          rw [Step.mapAll_append, h.operandSteps (h.part hS hk _ hleft) (hpart hk hleft),
            h.operandSteps (h.part hS hk _ hright) (hpart hk hright)]
        · split
          · exact hpart (Value.isText_iff.1 ‹_›) (by decide)
          · split
            · rename_i hk
              have hbase := h.part hS (Value.isText_iff.1 hk) "base" (by decide)
              rw [h.kind hbase]
              simp [Step.map, h.ofKinds (f := .unsupported _ _ _) rfl]
            · simp [Step.map, h.ofKinds (f := .unsupported _ _ _) rfl]

/-- **Related expressions ask for the same steps.** -/
theorem expressionSteps (h : Reading ρ φ S) (hS : S .node v w) :
    expressionSteps w = mapAll ρ φ (expressionSteps v) := by
  induction v using Value.sizeInduction generalizing w with
  | step v ih =>
    have hname := h.joinedName hS
    cases hr : v.isRecord with
    | false =>
      rw [expressionSteps_of_not_isRecord hr,
        expressionSteps_of_not_isRecord ((h.isRecord hS).trans hr)]
      simp [Step.map, h.notANode hS hr]
    | true =>
      cases hv : DefUse.joinedName v with
      | error f =>
        rw [hv] at hname
        rw [expressionSteps_of_error hv, expressionSteps_of_error hname]
        simp [Step.map]
      | ok name =>
        cases name with
        | some n =>
          rw [hv] at hname
          rw [expressionSteps_of_some hv, expressionSteps_of_some hname]
          simp [Step.map]
        | none => exact h.expressionSteps_of_nameless hS hr hv fun x hx {y} => ih x hx

/-! ## Statements -/

theorem calleeOf (h : Reading ρ φ S) (hS : S .node v w) :
    calleeOf w = ((calleeOf v).map (Option.map ρ)).mapError φ := by
  unfold DefUse.calleeOf
  rw [h.kind hS]
  split
  · exact h.joinedName (h.part hS (Value.isText_iff.1 ‹_›) _ (by decide))
  · rfl

theorem derivedSteps (h : Reading ρ φ S) (hS : S .node v w) (names : List String) :
    derivedSteps (names.map ρ) w = mapAll ρ φ (derivedSteps names v) := by
  unfold DefUse.derivedSteps
  rw [h.calleeOf hS]
  rcases DefUse.calleeOf v with f | _ | callee
  · simp [Step.map, Except.map, Except.mapError]
  · simp [Except.map, Except.mapError]
  · simp only [Except.map, Except.mapError, Option.map_some]
    induction names with
    | nil => simp
    | cons n rest ih => simpa [Step.map] using ih

/-- Something else in the place of a list of values gives no members. -/
theorem initialSteps_of_not_list {names : List String} {init : Value}
    (hget : v.get? "init" = some init) (hlist : ∀ items, init ≠ .list items)
    (hsingle : ¬ ∃ f, init = .record [f]) : DefUse.initialSteps names v = [] := by
  rw [DefUse.initialSteps, hget]
  split
  · rfl
  · rename_i f hf
    exact absurd ⟨f, Option.some.inj hf⟩ hsingle
  · rename_i value hvalue
    exact absurd (Option.some.inj hvalue) (hlist [value])
  · rfl

theorem initialSteps (h : Reading ρ φ S) (names : List String)
    (hfield : FieldAlike (S .node) (v.get? "init") (w.get? "init")) :
    initialSteps (names.map ρ) w = mapAll ρ φ (initialSteps names v) := by
  generalize hv : v.get? "init" = init at hfield
  generalize hw : w.get? "init" = init' at hfield
  cases hfield with
  | absent => simp [DefUse.initialSteps, hv, hw]
  | list hitems =>
    rw [DefUse.initialSteps, DefUse.initialSteps, hv, hw]
    cases hitems with
    | nil => simp
    | cons hvalue hrest =>
      cases hrest with
      | nil => exact h.derivedSteps hvalue names
      | cons => simp
  | @other x y hlist hlist' single =>
    by_cases hone : ∃ f, x = .record [f]
    · obtain ⟨f', rfl⟩ := single.1 hone
      obtain ⟨f, rfl⟩ := hone
      simp [DefUse.initialSteps, hv, hw, Step.map, h.ofKinds (f := .recordNotIndexed) rfl]
    · rw [initialSteps_of_not_list hv hlist hone,
        initialSteps_of_not_list hw hlist' fun hw => hone (single.2 hw), Step.mapAll_nil]

theorem localSteps (h : Reading ρ φ S) (hS : S .node v w)
    (hk : kindOf v = .str "LocalStatement") : localSteps w = mapAll ρ φ (localSteps v) := by
  have hnames : localNames w = ((localNames v).map (List.map ρ)).mapError φ := by
    have hitems := (h.items hS hk "variables" (by decide)).itemsAt?
    unfold localNames
    generalize v.itemsAt? "variables" = items at hitems
    generalize w.itemsAt? "variables" = items' at hitems
    cases hitems with
    | none => exact congrArg Except.error (h.ofKinds (f := .notASequence) rfl).symm
    | some hitems => exact h.requireNames hitems .localVariable
  have hinit := h.items hS hk "init" (by decide)
  have hvalues : expressionsAt "init" w = mapAll ρ φ (expressionsAt "init" v) :=
    h.stepsAt hinit fun x _ y hxy => h.expressionSteps hxy
  rw [DefUse.localSteps, DefUse.localSteps, hnames]
  rcases localNames v with f | names
  · simp [Step.map, Except.map, Except.mapError]
  · simp only [Except.map, Except.mapError, Step.mapAll_append, h.initialSteps _ hinit, hvalues]
    refine congrArg (· ++ _ ++ _) ?_
    induction names with
    | nil => simp
    | cons n rest ih => simpa [Step.map] using ih

/-- The steps for names that are needed, one for each item. -/
theorem namesAt (h : Reading ρ φ S) {items items' : List Value} (place : Place)
    {step : String → Step} (hstep : ∀ n, step (ρ n) = (step n).map ρ φ)
    (hitems : List.Forall₂ (S .node) items items') :
    items'.map (fun x => Step.ofName step (DefUse.requireName place x)) =
      mapAll ρ φ (items.map fun x => Step.ofName step (DefUse.requireName place x)) := by
  rw [List.map_eq_flatMap, List.map_eq_flatMap]
  refine flatMap hitems fun x _ y hxy => ?_
  rw [h.ofName hxy place hstep]
  simp

theorem assignmentSteps (h : Reading ρ φ S) (hS : S .node v w)
    (hk : kindOf v = .str "AssignmentStatement") :
    assignmentSteps w = mapAll ρ φ (assignmentSteps v) := by
  have hitems := (h.items hS hk "variables" (by decide)).itemsAt?
  unfold DefUse.assignmentSteps
  generalize v.itemsAt? "variables" = items at hitems
  generalize w.itemsAt? "variables" = items' at hitems
  cases hitems with
  | none => simp [Step.map, h.ofKinds (f := .notASequence) rfl]
  | some hitems => exact h.namesAt _ (fun n => by rw [Step.map]) hitems

theorem functionNameSteps (h : Reading ρ φ S) (hS : S .node v w)
    (hk : kindOf v = .str "FunctionDeclaration") :
    functionNameSteps w = mapAll ρ φ (functionNameSteps v) := by
  obtain ⟨hnull, hname⟩ := h.functionName hS hk
  simp only [DefUse.functionNameSteps, hnull, h.isLocal hS hk]
  split
  · simp
  · rename_i hne
    rw [h.requireName (hname fun he => hne (Value.isNull_iff.2 he)) .functionName]
    rcases DefUse.requireName .functionName (v.field "identifier") with f | n <;>
      simp [Step.map, Except.map, Except.mapError]

theorem isMethodName (h : Reading ρ φ S) (hname : OptionalAlike (S .node) v w) :
    isMethodName w = isMethodName v := by
  by_cases hv : v = .null
  · have hw : w = .null := Value.isNull_iff.1 (by rw [hname.1, hv]; rfl)
    rw [hv, hw]
  · have hS := hname.2 hv
    rw [Bool.eq_iff_iff, DefUse.isMethodName, DefUse.isMethodName, h.kind hS]
    simp only [Bool.and_eq_true, Value.isText_iff]
    refine and_congr_right fun hk => ?_
    rw [← Separator.ofValue?_eq_colon, ← Separator.ofValue?_eq_colon, h.indexer hS hk]

theorem parameterSteps (h : Reading ρ φ S) (hS : S .node v w)
    (hk : kindOf v = .str "FunctionDeclaration") :
    parameterSteps w = mapAll ρ φ (parameterSteps v) := by
  have hitems := (h.items hS hk "parameters" (by decide)).itemsAt?
  simp only [DefUse.parameterSteps, h.isMethodName (h.functionName hS hk), Step.mapAll_append]
  refine congrArg₂ (· ++ ·) ?_ ?_
  · split <;> simp [Step.map, h.self]
  · generalize v.itemsAt? "parameters" = items at hitems
    generalize w.itemsAt? "parameters" = items' at hitems
    cases hitems with
    | none => simp [Step.map, h.ofKinds (f := .notASequence) rfl]
    | some hitems =>
      refine h.namesAt _ (fun n => by rw [Step.map]) (List.rel_filter (fun x y hxy => ?_) hitems)
      have hkind : kindOf y = kindOf x := h.kind hxy
      simp only [hkind]

theorem clauseSteps (h : Reading ρ φ S) (hS : S .clause v w)
    (hblock : blockSteps w = mapAll ρ φ (blockSteps v)) :
    clauseSteps w = mapAll ρ φ (clauseSteps v) := by
  obtain ⟨hnull, hcondition⟩ := h.condition hS
  cases hr : v.isRecord with
  | false =>
    rw [clauseSteps_of_not_isRecord hr, clauseSteps_of_not_isRecord ((h.isRecord hS).trans hr)]
    simp [Step.map, h.ofKinds (f := .clauseNotANode) rfl]
  | true =>
    rw [clauseSteps_of_isRecord hr, clauseSteps_of_isRecord ((h.isRecord hS).trans hr), hnull,
      Step.mapAll_append, hblock]
    split
    · simp
    · rename_i hne
      rw [h.expressionSteps (hcondition fun he => hne (Value.isNull_iff.2 he))]

/-- One step of the induction, on statements. -/
theorem statementSteps (h : Reading ρ φ S) (hS : S .node v w)
    (ih : ∀ x, x.size ≤ v.size → ∀ {y}, S .block x y → blockSteps y = mapAll ρ φ (blockSteps x)) :
    statementSteps w = mapAll ρ φ (statementSteps v) := by
  rw [statementSteps_eq, statementSteps_eq, h.kind hS, Step.mapAll_cons, Step.map]
  refine congrArg (_ :: ·) ?_
  split
  · exact h.localSteps hS (Value.isText_iff.1 ‹_›)
  · split
    · exact h.assignmentSteps hS (Value.isText_iff.1 ‹_›)
    · split
      · rename_i hk
        have hk := Value.isText_iff.1 hk
        rw [h.functionNameSteps hS hk, h.parameterSteps hS hk,
          ih v (Nat.le_refl _) (h.functionBody hS hk)]
        simp [Step.map]
      · split
        · exact h.expressionSteps (h.part hS (Value.isText_iff.1 ‹_›) _ (by decide))
        · split
          · rename_i hk
            have hclauses := h.items hS (Value.isText_iff.1 hk) "clauses" (by decide)
            refine h.stepsAt hclauses fun x hx y hxy => h.clauseSteps hxy ?_
            exact ih x (Nat.le_of_lt (Value.size_lt_of_mem_itemsAt hx)) (h.clauseBody hxy)
          · split
            · rename_i hk
              have hvalues := h.items hS (Value.isText_iff.1 hk) "arguments" (by decide)
              exact h.stepsAt hvalues fun x _ y hxy => h.expressionSteps hxy
            · simp [Step.map, h.ofKinds (f := .unsupported _ _ _) rfl]

/-- **Trees that read alike ask for the same steps**, up to the spelling of names. -/
theorem blockSteps (h : Reading ρ φ S) (hS : S .block v w) :
    blockSteps w = mapAll ρ φ (blockSteps v) := by
  induction v using Value.sizeInduction generalizing w with
  | step v ih =>
    have hfield := h.body hS
    generalize hv : v.get? "body" = body at hfield
    generalize hw : w.get? "body" = body' at hfield
    have hnone : (∀ items, body ≠ some (.list items)) → (∀ items, body' ≠ some (.list items)) →
        DefUse.blockSteps w = mapAll ρ φ (DefUse.blockSteps v) := by
      intro hbody hbody'
      rw [← hv] at hbody
      rw [← hw] at hbody'
      rw [blockSteps_of_no_body hbody, blockSteps_of_no_body hbody', h.kind hS]
      simp [Step.map, h.ofKinds (f := .noBody _) rfl]
    cases hfield with
    | absent => exact hnone (by simp) (by simp)
    | other hlist hlist' => exact hnone (by simpa using hlist) (by simpa using hlist')
    | @list items items' hitems =>
      rw [blockSteps_of_body hv, blockSteps_of_body hw]
      refine flatMap hitems fun x hx y hxy => h.statementSteps hxy fun u hu z => ?_
      have hbody : v.itemsAt? "body" = some items := by rw [Value.itemsAt?, hv]; rfl
      have hlt := Value.size_itemsAt_lt "body" hbody hx
      exact ih u (Nat.lt_of_le_of_lt hu hlt)

end Reading

end DefUse
