import DefUse.Proofs.Value.Nodes

/-!
# Proofs/Lua/Contract — what the nodes of a tree promise

`Conforms` is the contract between what makes trees and what checks them, said of one node at a
time: by its kind, a node has its lists, its parts, its name or its separator, and a conditional has
its clauses in order.  A tree all of whose nodes conform is well-shaped (`shaped_of_conforms`), so
everything known about well-shaped trees holds of it.
-/

namespace DefUse

variable {v w : Value} {k key : String}

/-! ## The contract -/

/-- The kinds of clauses. -/
def clauseKinds : List String := ["IfClause", "ElseifClause", "ElseClause"]

/-- The kinds of nodes that hold statements, clauses included. -/
def bodyKinds : List String := blockKinds ++ clauseKinds

/-- Every kind of node there is. -/
def nodeKinds : List String :=
  bodyKinds ++ statementKinds ++
  ["WhileStatement", "RepeatStatement", "ForNumericStatement", "ForGenericStatement", "DoStatement",
   "BreakStatement", "GotoStatement", "LabelStatement"] ++
  "Identifier" :: expressionKinds ++ ["IndexExpression", "TableConstructorExpression"]

/-- The fields that are lists of nodes, by the kind of the node they belong to. -/
def arrayFields (k : String) : List String :=
  if k ∈ bodyKinds then "body" :: listFields k else listFields k

/-- What may follow the first clause of a conditional: clauses with `elseif`, then one with `else`
or none. -/
inductive LaterClauses : List Value → Prop
  | nil : LaterClauses []
  | otherwise {c : Value} (hk : kindOf c = .str "ElseClause") : LaterClauses [c]
  | elseIf {c : Value} {rest : List Value} (hk : kindOf c = .str "ElseifClause")
      (h : LaterClauses rest) : LaterClauses (c :: rest)

/-- **The clauses of a conditional**: one with `if`, and then those that may follow it. -/
inductive Clauses : List Value → Prop
  | intro {first : Value} {rest : List Value} (hk : kindOf first = .str "IfClause")
      (h : LaterClauses rest) : Clauses (first :: rest)

/-- What the nodes of one kind promise and those of others do not. -/
def Promise (k : String) (v : Value) : Prop :=
  match k with
  | "Identifier" => ∃ n, v.field "name" = .str n ∧ n ≠ ""
  | "MemberExpression" =>
    (v.field "indexer" = .str "." ∨ v.field "indexer" = .str ":") ∧
      kindOf (v.field "identifier") = .str "Identifier"
  | "FunctionDeclaration" =>
    v.field "identifier" = .null ∨ (v.field "identifier").isRecord = true
  | "IfStatement" => Clauses (v.itemsAt "clauses")
  | "IfClause" | "ElseifClause" => (v.field "condition").isRecord = true
  | "ElseClause" => v.get? "condition" = none
  | _ => True

/-- **A node keeps the contract of its kind.** -/
structure ConformsTo (k : String) (v : Value) : Prop where
  known : k ∈ nodeKinds
  arrays : ∀ key ∈ arrayFields k,
    ∃ items, v.get? key = some (.list items) ∧ ∀ w ∈ items, w.isRecord = true
  parts : ∀ key ∈ nodeFields k, (v.field key).isRecord = true
  left : k ∉ binaryKinds → v.field "left" = .null
  promise : Promise k v

/-- **A node conforms** if it has a kind and keeps its contract. -/
def Conforms (v : Value) : Prop := ∃ k, kindOf v = .str k ∧ ConformsTo k v

/-- A node of a kind that has neither lists nor parts. -/
theorem conforms_of_bare (hk : kindOf v = .str k)
    (hbare : k ∈ nodeKinds ∧ arrayFields k = [] ∧ nodeFields k = [])
    (hleft : v.field "left" = .null) (hpromise : Promise k v) : Conforms v := by
  obtain ⟨hknown, harrays, hparts⟩ := hbare
  refine ⟨k, hk, hknown, ?_, ?_, fun _ => hleft, hpromise⟩
  · rw [harrays]
    exact List.forall_mem_nil _
  · rw [hparts]
    exact List.forall_mem_nil _

/-! ## Trees that conform are well-shaped -/

theorem LaterClauses.kind {rest : List Value} (h : LaterClauses rest) :
    ∀ c ∈ rest, ∃ k ∈ clauseKinds, kindOf c = .str k := by
  induction h with
  | nil => simp
  | otherwise hk => exact List.forall_mem_singleton.2 ⟨_, by decide, hk⟩
  | elseIf hk _ ih => exact List.forall_mem_cons.2 ⟨⟨_, by decide, hk⟩, ih⟩

theorem Clauses.kind {clauses : List Value} (h : Clauses clauses) :
    ∀ c ∈ clauses, ∃ k ∈ clauseKinds, kindOf c = .str k := by
  cases h with
  | intro hk h => exact List.forall_mem_cons.2 ⟨⟨_, by decide, hk⟩, h.kind⟩

namespace ConformsTo

theorem name (h : ConformsTo k v) (hk : k = "Identifier") :
    ∃ n, v.field "name" = .str n ∧ n ≠ "" := by
  subst hk
  exact h.promise

theorem member (h : ConformsTo k v) (hk : k = "MemberExpression") :
    v.field "indexer" = .str "." ∨ v.field "indexer" = .str ":" := by
  subst hk
  exact h.promise.1

theorem functionName (h : ConformsTo k v) (hk : k = "FunctionDeclaration") :
    v.field "identifier" = .null ∨ (v.field "identifier").isRecord = true := by
  subst hk
  exact h.promise

theorem clauses (h : ConformsTo k v) (hk : k = "IfStatement") :
    Clauses (v.itemsAt "clauses") := by
  subst hk
  exact h.promise

theorem exists_items (h : ConformsTo k v) (hkey : key ∈ arrayFields k) :
    v.get? key = some (.list (v.itemsAt key)) ∧ ∀ w ∈ v.itemsAt key, w.isRecord = true := by
  obtain ⟨items, hget, hitems⟩ := h.arrays key hkey
  have heq : v.itemsAt key = items := by simp [Value.itemsAt, Value.itemsAt?, Value.items?, hget]
  rw [heq]
  exact ⟨hget, hitems⟩

/-- The condition of a clause is a node, if the clause has one. -/
theorem isRecord_condition (h : ConformsTo k v) (hk : k ∈ clauseKinds)
    (hne : v.field "condition" ≠ .null) : (v.field "condition").isRecord = true := by
  simp only [clauseKinds, List.mem_cons, List.not_mem_nil, or_false] at hk
  rcases hk with rfl | rfl | rfl
  · exact h.promise
  · exact h.promise
  · have habsent : v.get? "condition" = none := h.promise
    exact absurd (by rw [Value.field, habsent]; rfl) hne

end ConformsTo

theorem mem_arrayFields_of_mem_listFields (h : key ∈ listFields k) : key ∈ arrayFields k := by
  unfold arrayFields
  split
  · exact List.mem_cons_of_mem _ h
  · exact h

theorem body_mem_arrayFields (h : k ∈ bodyKinds) : "body" ∈ arrayFields k := by
  rw [arrayFields, if_pos h]
  exact List.mem_cons_self

/-- The statements of a node that conforms are a well-shaped block, if they are well-shaped. -/
theorem shapedBlock_of_conforms (h : ConformsTo k v) (hk : k ∈ bodyKinds)
    (hitems : ∀ w ∈ v.itemsAt "body", w.isRecord = true → Shaped w) : ShapedBlock v := by
  obtain ⟨hget, hrecords⟩ := h.exists_items (body_mem_arrayFields hk)
  exact .block ⟨_, hget⟩ fun w hw => hitems w hw (hrecords w hw)

/-- **A tree all of whose nodes conform is well-shaped.** -/
theorem shaped_of_conforms (h : v.AllNodes Conforms) (hr : v.isRecord = true) : Shaped v := by
  induction v using Value.sizeInduction with
  | step v ih =>
    obtain ⟨k, hk, hc⟩ := h.of_isRecord hr
    have hpart : ∀ key, (v.field key).isRecord = true → Shaped (v.field key) := fun key =>
      ih _ (Value.size_field_lt key hr) (h.field key)
    have hitem : ∀ key ∈ arrayFields k, ∀ w ∈ v.itemsAt key, Shaped w := fun key hkey w hw =>
      ih w (Value.size_lt_of_mem_itemsAt hw) (h.itemsAt hw) ((hc.exists_items hkey).2 w hw)
    have hclause : k = "IfStatement" → ∀ c ∈ v.itemsAt "clauses", ShapedClause c := by
      rintro rfl c hmem
      have hlt := Value.size_lt_of_mem_itemsAt hmem
      have hnodes := h.itemsAt hmem
      obtain ⟨k', hkind, hk'⟩ := (hc.clauses rfl).kind c hmem
      have hrecord := isRecord_of_kindOf_eq hk'
      obtain ⟨k'', hk'', hconforms⟩ := hnodes.of_isRecord hrecord
      obtain rfl := Value.str.inj (hk'.symm.trans hk'')
      refine .clause (fun hne => ?_) (shapedBlock_of_conforms hconforms ?_ fun w hw hrw => ?_)
      · exact ih _ (Nat.lt_trans (Value.size_field_lt _ hrecord) hlt) (hnodes.field _)
          (hconforms.isRecord_condition hkind hne)
      · exact List.mem_append_right _ hkind
      · exact ih w (Nat.lt_trans (Value.size_lt_of_mem_itemsAt hw) hlt) (hnodes.itemsAt hw) hrw
    refine .node hk hc.left hc.name hc.member (fun key hkey w hw => ?_)
      (fun key hkey => hitem key (mem_arrayFields_of_mem_listFields hkey))
      (fun key hkey => hpart key (hc.parts key hkey))
      (fun hf hne => hpart _ ((hc.functionName hf).resolve_left hne)) (fun hb => ?_) hclause
    · obtain ⟨hget, -⟩ := hc.exists_items (mem_arrayFields_of_mem_listFields hkey)
      exact ⟨_, Option.some.inj (hw.symm.trans hget)⟩
    · have hbody : k ∈ bodyKinds := List.mem_append_left _ hb
      exact shapedBlock_of_conforms hc hbody fun w hw _ =>
        hitem _ (body_mem_arrayFields hbody) w hw

end DefUse
