import DefUse.Proofs.Check.Rules

/-!
# Proofs/Name/Skeleton — what a value spells, read off its skeleton

The **skeleton** of a value is what is reached from it through the bases and identifiers of member
accesses: a binary tree, whose inner nodes are member accesses and whose leaves are anything else.
`skeleton` lists it from left to right, each member access between its two sides.

All that `resolve` says about a value can be read off that list.  It fails exactly if some node has
a fault, on whatever side of whatever other node; and otherwise the value spells a name exactly if
all leaves are identifiers, the name being the labels of the nodes one after the other
(`resolve_eq_iff`).
-/

namespace DefUse

variable {v w : Value} {f : Failure}

/-! ## The skeleton -/

/-- **The skeleton of a value**, from left to right. -/
def skeleton (v : Value) : List Value :=
  if _ : (kindOf v).isText "MemberExpression" then
    skeleton (v.field "base") ++ v :: skeleton (v.field "identifier")
  else [v]
termination_by v.size
decreasing_by all_goals exact Value.size_field_lt _ (isRecord_of_kind (by assumption))

theorem skeleton_of_member (hk : kindOf v = .str "MemberExpression") :
    skeleton v = skeleton (v.field "base") ++ v :: skeleton (v.field "identifier") := by
  rw [skeleton]
  exact dif_pos (Value.isText_iff.2 hk)

theorem skeleton_of_leaf (hk : kindOf v ≠ .str "MemberExpression") : skeleton v = [v] := by
  rw [skeleton]
  exact dif_neg fun h => hk (Value.isText_iff.1 h)

/-- What holds of a skeleton holds of both sides and of the member access between them. -/
theorem forall_skeleton_of_member {P : Value → Prop} (hk : kindOf v = .str "MemberExpression") :
    (∀ w ∈ skeleton v, P w) ↔ (∀ w ∈ skeleton (v.field "base"), P w) ∧ P v ∧
      ∀ w ∈ skeleton (v.field "identifier"), P w := by
  rw [skeleton_of_member hk, List.forall_mem_append, List.forall_mem_cons]

theorem forall_skeleton_of_leaf {P : Value → Prop} (hk : kindOf v ≠ .str "MemberExpression") :
    (∀ w ∈ skeleton v, P w) ↔ P v := by
  rw [skeleton_of_leaf hk, List.forall_mem_singleton]

/-! ## Faults -/

/-- **The fault of a node**: a member access with neither of the separators, or an identifier whose
name is no text or an empty one. -/
inductive NameFault (w : Value) : Failure → Prop
  | indexer (hk : kindOf w = .str "MemberExpression") (hdot : w.field "indexer" ≠ .str ".")
      (hcolon : w.field "indexer" ≠ .str ":") : NameFault w (.unknownIndexer (w.field "indexer"))
  | name (hk : kindOf w = .str "Identifier") (hn : ∀ n, w.field "name" = .str n → n = "") :
      NameFault w (.namelessIdentifier w)

/-- No node of the skeleton has a fault. -/
def Faultless (v : Value) : Prop := ∀ w ∈ skeleton v, ∀ f, ¬ NameFault w f

theorem faultless_iff : Faultless v ↔ ¬ ∃ w ∈ skeleton v, ∃ f, NameFault w f := by
  simp [Faultless]

/-- A node has no fault of its own if its kind promises nothing. -/
theorem not_fault_of_kind_ne (hi : kindOf v ≠ .str "Identifier")
    (hm : kindOf v ≠ .str "MemberExpression") : ¬ NameFault v f
  | .indexer hk _ _ => hm hk
  | .name hk _ => hi hk

namespace Separator

/-- The values that spell a separator. -/
theorem ofValue?_eq_some_iff {sep : Separator} :
    ofValue? v = some sep ↔ v = .str sep.text := by
  unfold ofValue?
  split
  · cases sep <;> simp [text, char]
  · cases sep <;> simp [text, char]
  · rename_i hdot hcolon
    cases sep
    · exact iff_of_false (by simp) hdot
    · exact iff_of_false (by simp) hcolon

end Separator

theorem not_fault_of_separator {sep : Separator} (hk : kindOf v = .str "MemberExpression")
    (hs : Separator.ofValue? (v.field "indexer") = some sep) : ¬ NameFault v f := by
  rintro (⟨-, hdot, hcolon⟩ | ⟨hi, -⟩)
  · rw [Separator.ofValue?_eq_some_iff] at hs
    cases sep
    · exact hdot hs
    · exact hcolon hs
  · simp [hk] at hi

/-! ## Names -/

/-- All leaves of the skeleton are identifiers. -/
def AllNamed (v : Value) : Prop :=
  ∀ w ∈ skeleton v, kindOf w ≠ .str "MemberExpression" → kindOf w = .str "Identifier"

/-- The label of a node of the skeleton: the separator of a member access, the name of a leaf. -/
def nodeLabel (w : Value) : String :=
  ((w.field (if (kindOf w).isText "MemberExpression" then "indexer" else "name")).text?).getD ""

/-- **What a skeleton spells**: the labels of its nodes, from left to right. -/
def spelled (v : Value) : String := String.join ((skeleton v).map nodeLabel)

theorem nodeLabel_of_member {sep : Separator} (hk : kindOf v = .str "MemberExpression")
    (hs : Separator.ofValue? (v.field "indexer") = some sep) : nodeLabel v = sep.text := by
  rw [nodeLabel, if_pos (Value.isText_iff.2 hk), Separator.ofValue?_eq_some_iff.1 hs]
  rfl

/-- A member access spells its base, its separator and its identifier. -/
theorem spelled_of_member {sep : Separator} (hk : kindOf v = .str "MemberExpression")
    (hs : Separator.ofValue? (v.field "indexer") = some sep) :
    spelled v = spelled (v.field "base") ++ sep.text ++ spelled (v.field "identifier") := by
  rw [spelled, skeleton_of_member hk, List.map_append, List.map_cons, nodeLabel_of_member hk hs]
  simp [spelled, String.append_assoc]

theorem spelled_of_identifier {n : String} (hk : kindOf v = .str "Identifier")
    (hn : v.field "name" = .str n) : spelled v = n := by
  have hleaf : kindOf v ≠ .str "MemberExpression" := by simp [hk]
  rw [spelled, skeleton_of_leaf hleaf, List.map_singleton, nodeLabel, if_neg (by simp [hk]), hn]
  simp [Value.text?]

/-- **What comes of a value**, by its skeleton: the fault of some node, or the name it spells if all
its leaves are identifiers, or none. -/
inductive SkeletonRule (v : Value) : Except Failure (Option String) → Prop
  | fault {w : Value} {f : Failure} (hw : w ∈ skeleton v) (hf : NameFault w f) :
      SkeletonRule v (.error f)
  | name (hfaultless : Faultless v) (hnamed : AllNamed v) :
      SkeletonRule v (.ok (some (spelled v)))
  | other (hfaultless : Faultless v) (hnot : ¬ AllNamed v) : SkeletonRule v (.ok none)

/-- A member access falls under a rule if both its sides do. -/
theorem skeletonRule_of_member {sep : Separator} {base leaf : Except Failure (Option String)}
    (hk : kindOf v = .str "MemberExpression")
    (hs : Separator.ofValue? (v.field "indexer") = some sep)
    (hbase : SkeletonRule (v.field "base") base)
    (hleaf : SkeletonRule (v.field "identifier") leaf) :
    SkeletonRule v (joinLinks sep base leaf) := by
  have hfaultless : Faultless v ↔ Faultless (v.field "base") ∧ Faultless (v.field "identifier") :=
    (forall_skeleton_of_member hk).trans
      (and_congr_right fun _ => and_iff_right fun _ => not_fault_of_separator hk hs)
  have hnamed : AllNamed v ↔ AllNamed (v.field "base") ∧ AllNamed (v.field "identifier") :=
    (forall_skeleton_of_member hk).trans
      (and_congr_right fun _ => and_iff_right fun hne => absurd hk hne)
  have hskeleton := skeleton_of_member hk
  cases hbase with
  | fault hw hf => exact .fault (by rw [hskeleton]; exact List.mem_append_left _ hw) hf
  | name hbase hbase' =>
    cases hleaf with
    | fault hw hf =>
      exact .fault (by rw [hskeleton]; exact List.mem_append_right _ (.tail _ hw)) hf
    | name hleaf hleaf' =>
      rw [joinLinks, ← spelled_of_member hk hs]
      exact .name (hfaultless.2 ⟨hbase, hleaf⟩) (hnamed.2 ⟨hbase', hleaf'⟩)
    | other hleaf hleaf' =>
      exact .other (hfaultless.2 ⟨hbase, hleaf⟩) fun h => hleaf' (hnamed.1 h).2
  | other hbase hbase' =>
    cases hleaf with
    | fault hw hf =>
      exact .fault (by rw [hskeleton]; exact List.mem_append_right _ (.tail _ hw)) hf
    | name hleaf _ => exact .other (hfaultless.2 ⟨hbase, hleaf⟩) fun h => hbase' (hnamed.1 h).1
    | other hleaf _ => exact .other (hfaultless.2 ⟨hbase, hleaf⟩) fun h => hbase' (hnamed.1 h).1

/-- **Every value falls under a rule**, by induction over its skeleton. -/
theorem skeletonRule (v : Value) : SkeletonRule v (joinedName v) := by
  induction v using Value.sizeInduction with
  | step v ih =>
    have hrule := nameRule v
    generalize joinedName v = result at hrule
    cases hrule with
    | @identifier n hk hn hne =>
      have hleaf : kindOf v ≠ .str "MemberExpression" := by simp [hk]
      rw [← spelled_of_identifier hk hn]
      refine .name ((forall_skeleton_of_leaf hleaf).2 ?_)
        ((forall_skeleton_of_leaf hleaf).2 fun _ => hk)
      rintro f (⟨hm, -, -⟩ | ⟨-, hempty⟩)
      · exact hleaf hm
      · exact hne (hempty n hn)
    | nameless hk hn =>
      have hleaf : kindOf v ≠ .str "MemberExpression" := by simp [hk]
      exact .fault (by rw [skeleton_of_leaf hleaf]; exact List.mem_singleton_self v) (.name hk hn)
    | unknownIndexer hk hs =>
      have hmem : v ∈ skeleton v := by
        rw [skeleton_of_member hk]
        exact List.mem_append_right _ List.mem_cons_self
      refine .fault hmem (.indexer hk (fun h => ?_) fun h => ?_)
      · rw [h] at hs
        cases hs
      · rw [h] at hs
        cases hs
    | member hk hs =>
      exact skeletonRule_of_member hk hs (ih _ (size_field_lt_of_kind hk "base"))
        (ih _ (size_field_lt_of_kind hk "identifier"))
    | other hi hm =>
      exact .other ((forall_skeleton_of_leaf hm).2 fun f => not_fault_of_kind_ne hi hm)
        fun h => hi ((forall_skeleton_of_leaf hm).1 h hm)

/-! ## Resolving -/

/-- The left operand that makes a value compound. -/
def HasLeft (v : Value) : Prop := v.isRecord = true ∧ v.field "left" ≠ .null

/-- Only a record has a field that is not `null`. -/
theorem hasLeft_iff : HasLeft v ↔ (v.field "left").isNull = false := by
  rw [HasLeft, ← Bool.not_eq_true, Value.isNull_iff]
  refine and_iff_right_of_imp fun hne => ?_
  cases v with
  | record fields => rfl
  | _ => exact absurd rfl hne

/-- **Name resolution, completely characterised.**  It fails exactly if a node of the skeleton has a
fault, on whatever side of whatever other node, and with the fault of such a node.  Otherwise the
value spells a name exactly if all leaves of the skeleton are identifiers, and then the name is what
the skeleton spells.  If it does not, it is compound if it is a record with a left operand, and
anything else if it is not; either way it goes along as it is. -/
theorem resolve_eq_iff (v : Value) :
    ((∃ f, resolve v = .error f) ↔ ∃ w ∈ skeleton v, ∃ f, NameFault w f) ∧
    (∀ f, resolve v = .error f → ∃ w ∈ skeleton v, NameFault w f) ∧
    (∀ n, resolve v = .ok (.name n) ↔ Faultless v ∧ AllNamed v ∧ n = spelled v) ∧
    (∀ w, resolve v = .ok (.compound w) ↔
      Faultless v ∧ ¬ AllNamed v ∧ HasLeft v ∧ w = v) ∧
    ∀ w, resolve v = .ok (.other w) ↔ Faultless v ∧ ¬ AllNamed v ∧ ¬ HasLeft v ∧ w = v := by
  have hrule := skeletonRule v
  generalize hname : joinedName v = result at hrule
  cases hrule with
  | @fault w f hw hf =>
    have hfaulty : ¬ Faultless v := fun h => h w hw f hf
    rw [resolve_of_error hname]
    simp only [hfaulty, false_and, reduceCtorEq, implies_true, and_true, Except.error.injEq]
    exact ⟨iff_of_true ⟨f, rfl⟩ ⟨w, hw, f, hf⟩, fun g hg => ⟨w, hw, hg ▸ hf⟩⟩
  | name hfaultless hnamed =>
    rw [resolve_of_some hname]
    simp [faultless_iff.1 hfaultless, hfaultless, hnamed, eq_comm]
  | other hfaultless hnot =>
    rw [resolve_of_none hname]
    cases hleft : (v.field "left").isNull with
    | true => simp [faultless_iff.1 hfaultless, hfaultless, hnot, hasLeft_iff, hleft, eq_comm]
    | false => simp [faultless_iff.1 hfaultless, hfaultless, hnot, hasLeft_iff, hleft, eq_comm]

/-- The identifier of a member access is looked at even if its base is no name. -/
example :
    let call : Value := .record [("type", .str "CallExpression")]
    let nameless : Value := .record [("type", .str "Identifier"), ("name", .str "")]
    let access : Value := .record [("type", .str "MemberExpression"), ("base", call),
      ("indexer", .str "."), ("identifier", nameless)]
    (resolve access).isOk = false := by
  decide +kernel

end DefUse
