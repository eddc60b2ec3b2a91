import Mathlib.Data.List.Forall2
import Mathlib.Data.List.Perm.Basic
import Mathlib.Logic.Relation
import DefUse.Proofs.Check.Renaming

/-!
# Proofs/Check/Annotations — what else a tree holds does not matter

What makes trees may put more on their nodes than a check asks for: where a node stands in the
source, what it looked like there, the comments around it.  An `Edit` changes such fields on a node,
or puts the fields of a record in another order, anywhere in a tree; `Reannotated` is any number of
edits.

A tree that keeps its contract reads like every tree it is edited to (`reading_reannotated`), so the
two ask for the same steps.  And the steps are all there is to a run: the tree they come from has no
part in carrying them out (`Step.performAll_onTree`).
-/

namespace DefUse

/-! ## Edits -/

/-- The fields that a check asks the nodes of a tree for. -/
def readFields : List String :=
  ["type", "name", "base", "indexer", "identifier", "variables", "init", "expression", "arguments",
   "argument", "clauses", "condition", "isLocal", "parameters", "body", "left", "right"]

/-- A node: a record with a text for a kind. -/
def IsNode (v : Value) : Prop := ∃ k, kindOf v = .str k

/-- **One edit of a tree.**  Every record has each of its keys once. -/
inductive Edit : Value → Value → Prop
  /-- The fields of a record are put in another order. -/
  | permute {fields fields' : List (String × Value)} (hkeys : (fields.map (·.1)).Nodup)
      (h : fields.Perm fields') : Edit (.record fields) (.record fields')
  /-- Fields of a node that no check asks for are added, removed or changed. -/
  | annotate {fields fields' : List (String × Value)} (hnode : IsNode (.record fields))
      (h : fields'.filter (·.1 ∈ readFields) = fields.filter (·.1 ∈ readFields)) :
      Edit (.record fields) (.record fields')
  | field {before after : List (String × Value)} {key : String} {v w : Value} (h : Edit v w) :
      Edit (.record (before ++ (key, v) :: after)) (.record (before ++ (key, w) :: after))
  | item {before after : List Value} {v w : Value} (h : Edit v w) :
      Edit (.list (before ++ v :: after)) (.list (before ++ w :: after))

/-- **A tree is edited to another one.** -/
def Reannotated : Value → Value → Prop := Relation.ReflTransGen Edit

namespace Value

variable {key : String} {fields fields' : List (String × Value)}

/-- Where a key stands does not matter if it is there once. -/
theorem lookup_perm (h : fields.Perm fields') (hkeys : (fields.map (·.1)).Nodup) :
    lookup key fields' = lookup key fields := by
  induction h with
  | nil => rfl
  | cons f _ ih =>
    rw [lookup, lookup, ih (List.nodup_cons.1 hkeys).2]
  | swap f g rest =>
    have hne : f.1 ≠ g.1 := fun he => (List.nodup_cons.1 hkeys).1 (by simp [he])
    by_cases hf : f.1 = key <;> by_cases hg : g.1 = key
    · exact absurd (hf.trans hg.symm) hne
    all_goals simp [lookup, hf, hg]
  | trans h _ ih ih' => rw [ih' ((h.map _).nodup hkeys), ih hkeys]

/-- Leaving other fields out does not matter. -/
theorem lookup_filter {p : String → Bool} (hkey : p key = true) :
    lookup key (fields.filter (p ·.1)) = lookup key fields := by
  induction fields with
  | nil => rfl
  | cons f rest ih =>
    by_cases hf : f.1 = key
    · simp [lookup, hf, hkey]
    · by_cases hp : p f.1 = true <;> simp [lookup, hf, hp, ih]

end Value

namespace Edit

variable {v w : Value} {key : String}

theorem isRecord_eq (h : Edit v w) : w.isRecord = v.isRecord := by
  cases h <;> rfl

theorem isNull_eq (h : Edit v w) : w.isNull = v.isNull := by
  cases h <;> rfl

/-- A node that is edited is not empty, and neither is what holds one. -/
theorem truthy_eq (h : Edit v w) : w.truthy = v.truthy := by
  cases h with
  | permute _ h => simp [Value.truthy, h.isEmpty_eq]
  | @annotate fields fields' hnode h =>
    obtain ⟨k, hk⟩ := hnode
    have hne : fields ≠ [] := by rintro rfl; cases hk
    have hne' : fields' ≠ [] := by
      rintro rfl
      have hlookup : Value.lookup "type" (fields.filter (·.1 ∈ readFields)) =
          Value.lookup "type" fields :=
        Value.lookup_filter (p := (· ∈ readFields)) (by decide)
      rw [← h] at hlookup
      simp [kindOf, Value.field, Value.get?, ← hlookup, Value.lookup] at hk
    rw [Value.truthy, Value.truthy, List.isEmpty_eq_false_iff.2 hne,
      List.isEmpty_eq_false_iff.2 hne']
  | @field before | @item before => cases before <;> rfl

/-- **The fields that are read are the same**, or edited themselves. -/
theorem get?_rel (h : Edit v w) (hkey : key ∈ readFields) :
    Option.Rel Reannotated (v.get? key) (w.get? key) := by
  have hsame : ∀ field : Option Value, Option.Rel Reannotated field field := fun field =>
    match field with
    | none => .none
    | some _ => .some .refl
  cases h with
  | permute hkeys h =>
    rw [Value.get?, Value.get?, Value.lookup_perm h hkeys]
    exact hsame _
  | annotate _ h =>
    have hread : decide (key ∈ readFields) = true := decide_eq_true hkey
    rw [Value.get?, Value.get?, ← Value.lookup_filter (p := (· ∈ readFields)) hread, ← h,
      Value.lookup_filter (p := (· ∈ readFields)) hread]
    exact hsame _
  | @field before after key' v w h =>
    induction before with
    | nil =>
      by_cases hk : key' = key
      · rw [Value.get?, Value.get?, List.nil_append, List.nil_append, Value.lookup, Value.lookup,
          if_pos hk, if_pos hk]
        exact .some (.single h)
      · simpa [Value.get?, Value.lookup, hk] using hsame (Value.lookup key after)
    | cons f before ih =>
      by_cases hk : f.1 = key
      · simpa [Value.get?, Value.lookup, hk] using hsame (some f.2)
      · simpa [Value.get?, Value.lookup, hk] using ih
  | item => exact .none

end Edit

namespace Reannotated

variable {v w : Value} {key : String} {items : List Value}

theorem isRecord_eq (h : Reannotated v w) : w.isRecord = v.isRecord := by
  induction h with
  | refl => rfl
  | tail _ hedit ih => rw [hedit.isRecord_eq, ih]

theorem isNull_eq (h : Reannotated v w) : w.isNull = v.isNull := by
  induction h with
  | refl => rfl
  | tail _ hedit ih => rw [hedit.isNull_eq, ih]

theorem truthy_eq (h : Reannotated v w) : w.truthy = v.truthy := by
  induction h with
  | refl => rfl
  | tail _ hedit ih => rw [hedit.truthy_eq, ih]

/-- A text is not edited. -/
theorem eq_str {s : String} (h : Reannotated (.str s) w) : w = .str s := by
  induction h with
  | refl => rfl
  | tail _ hedit ih =>
    subst ih
    cases hedit

/-- Lists that are edited to one stay so if one of its items is edited. -/
theorem forall₂_edit {before after : List Value} (hvw : Edit v w)
    (h : List.Forall₂ Reannotated items (before ++ v :: after)) :
    List.Forall₂ Reannotated items (before ++ w :: after) := by
  induction before generalizing items with
  | nil =>
    obtain ⟨u, rest, hu, hrest, rfl⟩ := List.forall₂_cons_right_iff.1 h
    exact .cons (hu.tail hvw) hrest
  | cons x before ih =>
    obtain ⟨u, rest, hu, hrest, rfl⟩ := List.forall₂_cons_right_iff.1 h
    exact .cons hu (ih hrest)

/-- **A list is edited item by item.** -/
theorem exists_list (h : Reannotated (.list items) w) :
    ∃ items', w = .list items' ∧ List.Forall₂ Reannotated items items' := by
  induction h with
  | refl => exact ⟨items, rfl, List.forall₂_same.2 fun _ _ => .refl⟩
  | tail _ hedit ih =>
    obtain ⟨items', rfl, hitems⟩ := ih
    cases hedit with
    | item hxy => exact ⟨_, rfl, forall₂_edit hxy hitems⟩

/-- **The fields that are read are edited themselves.** -/
theorem get?_rel (h : Reannotated v w) (hkey : key ∈ readFields) :
    Option.Rel Reannotated (v.get? key) (w.get? key) := by
  induction h with
  | refl =>
    cases v.get? key with
    | none => exact .none
    | some u => exact .some .refl
  | @tail u w _ hedit ih =>
    have hnext := hedit.get?_rel hkey
    generalize v.get? key = x at ih
    generalize u.get? key = y at ih hnext
    generalize w.get? key = z at hnext
    cases ih with
    | none => exact hnext
    | some hxy =>
      cases hnext with
      | some hyz => exact .some (hxy.trans hyz)

theorem field (h : Reannotated v w) (hkey : key ∈ readFields) :
    Reannotated (v.field key) (w.field key) := by
  have hfield := h.get?_rel hkey
  unfold Value.field
  generalize v.get? key = x at hfield
  generalize w.get? key = y at hfield
  cases hfield with
  | none => exact .refl
  | some h => exact h

theorem kindOf_eq (h : Reannotated v w) (hv : IsNode v) : kindOf w = kindOf v := by
  obtain ⟨k, hk⟩ := hv
  have hkind : Reannotated (kindOf v) (kindOf w) := h.field (by decide)
  rw [hk] at hkind ⊢
  exact hkind.eq_str

/-- A list that is read is gone through alike. -/
theorem fieldAlike {Q : Value → Prop} (h : Reannotated v w) (hkey : key ∈ readFields)
    (hlist : ∀ u, v.get? key = some u → ∃ items, u = .list items)
    (hitems : ∀ x ∈ v.itemsAt key, Q x) :
    FieldAlike (fun x y => Q x ∧ Reannotated x y) (v.get? key) (w.get? key) := by
  have hfield := h.get?_rel hkey
  unfold Value.itemsAt Value.itemsAt? at hitems
  generalize v.get? key = x at hfield hlist hitems
  generalize w.get? key = y at hfield
  cases hfield with
  | none => exact .absent
  | some h =>
    obtain ⟨items, rfl⟩ := hlist _ rfl
    obtain ⟨items', rfl, hrel⟩ := h.exists_list
    exact .list ((List.forall₂_and_left _ _).2 ⟨hitems, hrel⟩)

end Reannotated

/-! ## Edited trees read alike -/

/-- **A tree keeps the contract**: whatever is read as something is a node, and what is gone through
is a list; an identifier has a name, and a member access has a separator. -/
structure KeepsContract (tree : Value) : Prop where
  nodes : ∀ role v, ReadIn tree role v → IsNode v
  legible : LegibleTree tree
  lists : ∀ v k, ReadIn tree .node v → kindOf v = .str k → ∀ key ∈ listFields k,
    ∀ w, v.get? key = some w → ∃ items, w = .list items
  bodies : ∀ v, ReadIn tree .block v → ∃ items, v.get? "body" = some (.list items)

theorem mem_readFields_of_mem_nodeFields {k : String} : ∀ key ∈ nodeFields k, key ∈ readFields := by
  unfold nodeFields
  split <;> decide

theorem mem_readFields_of_mem_listFields {k : String} : ∀ key ∈ listFields k, key ∈ readFields := by
  unfold listFields
  split <;> decide

theorem Separator.exists_str {v : Value} {sep : Separator} (h : ofValue? v = some sep) :
    ∃ s, v = .str s := by
  cases v with
  | str s => exact ⟨s, rfl⟩
  | _ => cases h

/-- **An edited tree reads like the tree.** -/
theorem reading_reannotated {tree : Value} (h : KeepsContract tree) :
    Reading id id fun role v w => ReadIn tree role v ∧ Reannotated v w where
  join _ _ _ := rfl
  self := rfl
  ofKinds _ := rfl
  kind hS := hS.2.kindOf_eq (h.nodes _ _ hS.1)
  isRecord hS := hS.2.isRecord_eq
  notANode := by
    rintro v w ⟨hv, -⟩ hr
    obtain ⟨k, hk⟩ := h.nodes _ v hv
    rw [isRecord_of_kindOf_eq hk] at hr
    cases hr
  left hS := (hS.2.field (by decide)).isNull_eq
  name := by
    rintro v w ⟨hv, hvw⟩ hk
    obtain ⟨n, hn, hne⟩ := (h.legible v hv).name hk
    have hname : Reannotated (v.field "name") (w.field "name") := hvw.field (by decide)
    rw [hn] at hname
    rw [identifierName_eq hn hne, identifierName_eq hname.eq_str hne]
    rfl
  indexer := by
    rintro v w ⟨hv, hvw⟩ hk
    obtain ⟨sep, hsep⟩ := (h.legible v hv).indexer hk
    obtain ⟨s, hs⟩ := Separator.exists_str hsep
    have hindexer : Reannotated (v.field "indexer") (w.field "indexer") := hvw.field (by decide)
    rw [hs] at hindexer ⊢
    rw [hindexer.eq_str]
  unknownIndexer := by
    rintro v w ⟨hv, -⟩ hk hnone
    obtain ⟨sep, hsep⟩ := (h.legible v hv).indexer hk
    cases hnone.symm.trans hsep
  part := by
    rintro v w k ⟨hv, hvw⟩ hk key hkey
    exact ⟨hv.tail (.part hk hkey), hvw.field (mem_readFields_of_mem_nodeFields key hkey)⟩
  items := by
    rintro v w k ⟨hv, hvw⟩ hk key hkey
    exact hvw.fieldAlike (mem_readFields_of_mem_listFields key hkey) (h.lists v k hv hk key hkey)
      fun x hx => hv.tail (.item hk hkey hx)
  functionName := by
    rintro v w ⟨hv, hvw⟩ hk
    have hname : Reannotated (v.field "identifier") (w.field "identifier") := hvw.field (by decide)
    exact ⟨hname.isNull_eq, fun hne => ⟨hv.tail (.functionName hk hne), hname⟩⟩
  isLocal hS _ := (hS.2.field (by decide)).truthy_eq
  functionBody hS hk := ⟨hS.1.tail (.functionBody hk), hS.2⟩
  body := by
    rintro v w ⟨hv, hvw⟩
    obtain ⟨items, hitems⟩ := h.bodies v hv
    exact hvw.fieldAlike (by decide) (fun u hu => ⟨items, Option.some.inj (hu.symm.trans hitems)⟩)
      fun x hx => hv.tail (.statement hx)
  condition := by
    rintro v w ⟨hv, hvw⟩
    have hcondition : Reannotated (v.field "condition") (w.field "condition") :=
      hvw.field (by decide)
    exact ⟨hcondition.isNull_eq, fun hne => ⟨hv.tail (.condition hne), hcondition⟩⟩
  clauseBody hS := ⟨hS.1.tail .clauseBody, hS.2⟩

/-! ## The tree has no part in carrying out its steps -/

namespace Session

/-- The session with another tree. -/
def onTree (tree : Value) (s : Session) : Session := { s with tree }

end Session

/-- What an operation leads to, with another tree. -/
def Outcome.onTree (tree : Value) (o : Outcome) : Outcome := (o.1, o.2.onTree tree)

theorem Outcome.andThen_onTree {tree : Value} (o : Outcome) {next next' : Session → Outcome}
    (h : ∀ s, next' (s.onTree tree) = (next s).onTree tree) :
    (o.onTree tree).andThen next' = (o.andThen next).onTree tree := by
  obtain ⟨_ | f, s⟩ := o
  · exact h s
  · rfl

namespace Session

variable {tree : Value} {s : Session} {n callee : String} {d : Int}

theorem warn_onTree (f : Finding) : (s.onTree tree).warn f = (s.warn f).onTree tree := by
  rw [warn, warn, apply_ite (onTree tree)]
  rfl

theorem retract_onTree : (s.onTree tree).retract n = (s.retract n).onTree tree := by
  simp only [retract]
  rw [apply_ite (onTree tree)]
  rfl

theorem declare_onTree (isLocal : Bool) :
    (s.onTree tree).declare n d isLocal = Outcome.onTree tree (s.declare n d isLocal) := by
  rw [declare, declare, onTree]
  rcases s.scopes.declares n d isLocal with f | visible
  · rfl
  · cases visible
    · exact congrArg (none, ·) retract_onTree
    · exact congrArg (none, ·) (warn_onTree _)

theorem define_onTree (isLocal : Bool) :
    (s.onTree tree).define n d isLocal = Outcome.onTree tree (s.define n d isLocal) := by
  rw [define, define, onTree]
  rcases s.scopes.define n d isLocal with f | ⟨k, scopes⟩ <;> rfl

theorem use_onTree : (s.onTree tree).use n d = Outcome.onTree tree (s.use n d) := by
  rw [use, use, onTree]
  rcases s.scopes.use n d with f | ⟨visible, scopes⟩
  · rfl
  · cases visible
    · exact congrArg (none, ·) (warn_onTree (s := { s.note (.used n d false) with scopes }) _)
    · rfl

theorem assign_onTree : (s.onTree tree).assign n d = Outcome.onTree tree (s.assign n d) := by
  rw [assign, assign, onTree]
  rcases s.scopes.find n d with f | _ | owner
  · rfl
  · exact define_onTree false
  · exact define_onTree true

theorem defineAll_onTree (names : List String) :
    ∀ {s : Session},
      (s.onTree tree).defineAll d names = Outcome.onTree tree (s.defineAll d names) := by
  induction names with
  | nil => exact rfl
  | cons n rest ih =>
    intro s
    rw [defineAll, defineAll, define_onTree]
    exact Outcome.andThen_onTree _ fun s => ih

theorem derive_onTree :
    (s.onTree tree).derive n callee d = Outcome.onTree tree (s.derive n callee d) := by
  have hmembers : (s.onTree tree).derivedMembers n callee d = s.derivedMembers n callee d := rfl
  rw [derive, derive, hmembers]
  cases s.derivedMembers n callee d with
  | error f => rfl
  | ok members => exact defineAll_onTree _

theorem closeScope_onTree : (s.onTree tree).closeScope = Outcome.onTree tree s.closeScope := by
  rw [closeScope, closeScope, onTree]
  rcases s.scopes.pop with ⟨f | u, scopes⟩
  · cases f <;> rfl
  · rfl

theorem lookBack_onTree (inner : Nat) :
    (s.onTree tree).lookBack inner = Outcome.onTree tree (s.lookBack inner) := by
  rw [lookBack, lookBack, apply_ite (Outcome.onTree tree), onTree]
  rcases s.scopes.snapshot inner with f | counts <;> rfl

theorem leave_onTree (inner : Nat) (o : Outcome) :
    leave inner (o.onTree tree) = Outcome.onTree tree (leave inner o) := by
  obtain ⟨failure, s⟩ := o
  rw [leave, leave, Outcome.onTree, lookBack_onTree]
  rcases s.lookBack inner with ⟨_ | f, t⟩
  · exact congrArg (fun o : Outcome => (o.1.or failure, o.2)) closeScope_onTree
  · rfl

theorem start_onTree (settings : Settings) (tree tree' : Value) :
    start settings tree' = (start settings tree).onTree tree' := by
  have hall : ∀ (names : List String) (s : Session),
      start.defineAllGlobals names (s.onTree tree') =
        (start.defineAllGlobals names s).onTree tree' := by
    intro names
    induction names with
    | nil => exact fun _ => rfl
    | cons n rest ih =>
      intro s
      rw [start.defineAllGlobals, define_onTree]
      exact ih _
  exact hall settings.globals
    { settings, tree, scopes := .initial, findings := [], walked := false, traced := false,
      events := [] }

end Session

namespace Step

mutual

/-- **Carrying out a step is the same whatever tree it comes from.** -/
theorem perform_onTree (tree : Value) (d : Int) :
    ∀ (step : Step) (s : Session),
      step.perform d (s.onTree tree) = Outcome.onTree tree (step.perform d s)
  | .enter _, _ | .ignore _, _ | .stop _, _ => rfl
  | .declare _ isLocal, _ => Session.declare_onTree isLocal
  | .define _ isLocal, _ => Session.define_onTree isLocal
  | .use _, _ => Session.use_onTree
  | .assign _, _ => Session.assign_onTree
  | .derive _ _, _ => Session.derive_onTree
  | .function body, s => by
    have hbody := performAll_onTree tree s.openScope.scopes.depth body s.openScope
    rw [perform, perform, apply_ite (Outcome.onTree tree), ← Session.leave_onTree, ← hbody]
    refine if_congr Iff.rfl rfl ?_
    exact congrArg (fun o : Outcome => (o.1.or (some (.misplacedScope d _)), o.2))
      (Session.closeScope_onTree (s := s.openScope))

/-- **Carrying out steps is the same whatever tree they come from.** -/
theorem performAll_onTree (tree : Value) (d : Int) :
    ∀ (steps : List Step) (s : Session),
      performAll d steps (s.onTree tree) = Outcome.onTree tree (performAll d steps s)
  | [], _ => by rw [performAll, performAll]; rfl
  | step :: rest, s => by
    rw [performAll, performAll, perform_onTree tree d step s]
    exact Outcome.andThen_onTree _ fun s => performAll_onTree tree d rest s

end

end Step

/-! ## Well-shaped trees -/

/-- What a value of a well-shaped tree is, by what it is read as. -/
def ShapedAs : Role → Value → Prop
  | .node, v => Shaped v
  | .block, v => IsNode v ∧ ShapedBlock v
  | .clause, v => Shaped v ∧ ShapedClause v

theorem shapedAs_item {v w : Value} {k key : String} (h : Shaped v) (hk : kindOf v = .str k)
    (hkey : key ∈ listFields k) (hw : w ∈ v.itemsAt key) : ShapedAs (itemRole key) w := by
  have hclauses : ∀ k : String, "clauses" ∈ listFields k → k = "IfStatement" := by
    intro k
    unfold listFields
    split <;> simp
  have hshaped := h.item hk hkey hw
  unfold itemRole
  split
  · subst key
    obtain rfl := hclauses k hkey
    exact ⟨hshaped, h.clause hk hw⟩
  · exact hshaped

theorem shapedAs_of_readIn {tree v : Value} {role : Role} (h : Shaped tree)
    (hk : kindOf tree = .str "Chunk") (hv : ReadIn tree role v) : ShapedAs role v := by
  have hread : ∀ {x y : Role × Value}, Relation.ReflTransGen Reads x y → ShapedAs x.1 x.2 →
      ShapedAs y.1 y.2 := by
    intro x y hxy hx
    induction hxy with
    | refl => exact hx
    | tail _ hread ih =>
      cases hread with
      | part hk hkey => exact Shaped.part ih hk hkey
      | item hk hkey hw => exact shapedAs_item ih hk hkey hw
      | functionName hk hne => exact Shaped.functionName ih hk hne
      | functionBody hk => exact ⟨⟨_, hk⟩, Shaped.block ih hk (by decide)⟩
      | statement hw =>
        cases ih.2 with
        | block _ statements => exact statements _ hw
      | condition hne =>
        cases ih.2 with
        | clause condition _ => exact condition hne
      | clauseBody =>
        cases ih.2 with
        | clause _ block => exact ⟨ih.1.exists_kind, block⟩
  exact hread hv ⟨⟨_, hk⟩, h.block hk (by decide)⟩

/-- **Well-shaped trees keep the contract.** -/
theorem keepsContract_of_shaped {tree : Value} (h : Shaped tree) (hk : kindOf tree = .str "Chunk") :
    KeepsContract tree where
  nodes role v hv := by
    have hshaped := shapedAs_of_readIn h hk hv
    cases role with
    | node => exact Shaped.exists_kind hshaped
    | block => exact hshaped.1
    | clause => exact hshaped.1.exists_kind
  legible v hv := by
    have hshaped : Shaped v := shapedAs_of_readIn h hk hv
    exact ⟨hshaped.exists_name, hshaped.exists_separator⟩
  lists v k hv hkind key hkey w hw := by
    have hshaped : Shaped v := shapedAs_of_readIn h hk hv
    rcases hshaped.get?_cases hkind hkey with ⟨hnone, -⟩ | hsome
    · cases hnone.symm.trans hw
    · exact ⟨_, Option.some.inj (hw.symm.trans hsome)⟩
  bodies v hv := by
    obtain ⟨-, hblock⟩ : IsNode v ∧ ShapedBlock v := shapedAs_of_readIn h hk hv
    cases hblock with
    | block body _ => exact body

/-! ## Runs -/

/-- **What else a tree holds does not matter.**  If a tree that keeps the contract is edited, by
adding, removing or changing on its nodes what no check asks for and by putting the fields of its
records in another order, checking it comes to the same: the same report, or the same failure that
escapes, and the same session, with its scopes, its findings and its trace. -/
theorem Session.verify_reannotated (settings : Settings) {tree tree' : Value} (path : Option String)
    (h : KeepsContract tree) (hedits : Reannotated tree tree') :
    (start settings tree').verify path =
      (((start settings tree).verify path).1,
        { ((start settings tree).verify path).2 with tree := tree' }) := by
  have hsteps : blockSteps tree' = blockSteps tree := by
    rw [(reading_reannotated h).blockSteps ⟨.refl, hedits⟩, Step.mapAll_id]
  have hwalk : (start settings tree').walk 0 = ((start settings tree).walk 0).onTree tree' := by
    rw [walk_start, walk_start, hsteps, start_onTree settings tree tree']
    exact Step.performAll_onTree tree' 0 _ (start settings tree).walking
  refine Prod.ext ?_ ?_
  · rw [fst_verify, fst_verify, hwalk]
    rfl
  · rw [snd_verify, snd_verify, hwalk]
    rfl

/-- The tree of `return x`, with its root turned round and a note on where the name stands. -/
theorem Session.verify_reannotated_return :
    let name (notes : List (String × Value)) : Value :=
      .record ([("type", .str "Identifier"), ("name", .str "x")] ++ notes)
    let result (v : Value) : Value :=
      .record [("type", .str "ReturnStatement"), ("arguments", .list [v])]
    let tree : Value := .record [("type", .str "Chunk"), ("body", .list [result (name [])])]
    let loc : Value := .record [("line", .int 1)]
    let tree' : Value :=
      .record [("body", .list [result (name [("loc", loc)])]), ("type", .str "Chunk")]
    KeepsContract tree ∧ Reannotated tree tree' ∧
      (start .bundled tree').verify none =
        (((start .bundled tree).verify none).1,
          { ((start .bundled tree).verify none).2 with tree := tree' }) := by
  intro name result tree loc tree'
  have hname : Shaped (name []) := by
    refine .node (k := "Identifier") rfl (fun _ => rfl) ?_ ?_ ?_ ?_ ?_ ?_ ?_ ?_
    · exact fun _ => ⟨"x", rfl, by decide⟩
    all_goals simp [listFields, nodeFields, blockKinds]
  have hresult : Shaped (result (name [])) := by
    refine .node (k := "ReturnStatement") rfl (fun _ => rfl) ?_ ?_ ?lists ?items ?_ ?_ ?_ ?_
    case lists =>
      exact List.forall_mem_singleton.2 fun w hw => ⟨[name []], (Option.some.inj hw).symm⟩
    case items => exact List.forall_mem_singleton.2 (List.forall_mem_singleton.2 hname)
    all_goals simp [nodeFields, blockKinds]
  have htree : Shaped tree := by
    refine .node (k := "Chunk") rfl (fun _ => rfl) ?_ ?_ ?_ ?_ ?_ ?_ ?block ?_
    case block =>
      exact fun _ => .block ⟨[result (name [])], rfl⟩ (List.forall_mem_singleton.2 hresult)
    all_goals simp [listFields, nodeFields]
  have hnote : Edit (name []) (name [("loc", loc)]) := .annotate ⟨_, rfl⟩ rfl
  have hnoted : Edit tree (.record [("type", .str "Chunk"),
      ("body", .list [result (name [("loc", loc)])])]) :=
    @Edit.field [_] [] "body" _ _ (@Edit.item [] [] _ _ (@Edit.field [_] [] "arguments" _ _
      (@Edit.item [] [] _ _ hnote)))
  have hturned : Edit (.record [("type", .str "Chunk"),
      ("body", .list [result (name [("loc", loc)])])]) tree' :=
    .permute (by decide) (List.Perm.swap _ _ _)
  have hcontract := keepsContract_of_shaped htree rfl
  have hedits : Reannotated tree tree' := (Relation.ReflTransGen.single hnoted).tail hturned
  exact ⟨hcontract, hedits, verify_reannotated .bundled none hcontract hedits⟩

end DefUse
