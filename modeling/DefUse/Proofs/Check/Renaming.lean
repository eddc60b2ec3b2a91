import Mathlib.Logic.Relation
import DefUse.Proofs.Check.Globals
import DefUse.Proofs.Check.Reading
import DefUse.Proofs.Name.Renaming
import DefUse.Proofs.Value.Nodes

/-!
# Proofs/Check/Renaming — what is found does not depend on how names are spelled

A tree and settings can be renamed as a whole: every identifier, and every name the settings speak
of.  Checking the renamed tree then finds what checking the tree finds, under the new names.

Two things have to be shown.  The renamed tree asks for the renamed steps (`reading_rename`), and
the walks over the two keep to each other (`lockstep_mirrors`): what one has defined, the other has
defined under its new name, and nothing besides.
-/

namespace DefUse

/-! ## Renaming trees -/

namespace Value

/-- A text with another one in its place. -/
def onText (ρ : String → String) : Value → Value
  | str s => str (ρ s)
  | v => v

mutual

/-- **Rename every identifier of a tree.**  The kinds of its nodes are no part of it. -/
def rename (ρ : String → String) : Value → Value
  | list items => list (renameItems ρ items)
  | record fields =>
    record (renameFields ρ ((lookup "type" fields).any (·.isText "Identifier")) fields)
  | v => v

/-- Rename every identifier of some items. -/
def renameItems (ρ : String → String) : List Value → List Value
  | [] => []
  | v :: rest => v.rename ρ :: renameItems ρ rest

/-- Rename every identifier of some fields, which may be those of an identifier. -/
def renameFields (ρ : String → String) (isName : Bool) :
    List (String × Value) → List (String × Value)
  | [] => []
  | (key, v) :: rest =>
    (key, if key = "type" then v else if isName && key = "name" then (v.rename ρ).onText ρ
      else v.rename ρ) :: renameFields ρ isName rest

end

variable {ρ : String → String} {v : Value} {key : String}

theorem renameItems_eq_map (items : List Value) : renameItems ρ items = items.map (rename ρ) := by
  induction items with
  | nil => rw [renameItems, List.map_nil]
  | cons v rest ih => rw [renameItems, List.map_cons, ih]

theorem lookup_renameFields (isName : Bool) (fields : List (String × Value)) :
    lookup key (renameFields ρ isName fields) = (lookup key fields).map fun v =>
      if key = "type" then v else if isName && key = "name" then (v.rename ρ).onText ρ
      else v.rename ρ := by
  induction fields with
  | nil => rw [renameFields]; rfl
  | cons field rest ih =>
    obtain ⟨key', v⟩ := field
    rw [renameFields, lookup, lookup, ih]
    by_cases hkey : key' = key <;> simp [hkey]

@[simp] theorem rename_null : rename ρ null = null := by
  rw [rename] <;> simp

@[simp] theorem rename_str (s : String) : rename ρ (str s) = str s := by
  rw [rename] <;> simp

/-- A field of a renamed tree. -/
theorem get?_rename (v : Value) (key : String) :
    (v.rename ρ).get? key = (v.get? key).map fun w =>
      if key = "type" then w
      else if (kindOf v).isText "Identifier" && key = "name" then (w.rename ρ).onText ρ
      else w.rename ρ := by
  cases v with
  | record fields =>
    have hname : ((lookup "type" fields).any (·.isText "Identifier")) =
        (kindOf (record fields)).isText "Identifier" := by
      rw [kindOf, field, get?]
      cases lookup "type" fields <;> rfl
    rw [rename, hname]
    exact lookup_renameFields _ fields
  | _ => simp [rename, get?]

theorem kindOf_rename (v : Value) : kindOf (v.rename ρ) = kindOf v := by
  rw [kindOf, kindOf, field, field, get?_rename]
  cases v.get? "type" <;> rfl

/-- The fields that are neither a kind nor the name of an identifier are renamed themselves. -/
theorem get?_rename_of_ne (htype : key ≠ "type") (hname : key ≠ "name") :
    (v.rename ρ).get? key = (v.get? key).map (rename ρ) := by
  simp [get?_rename, htype, hname]

theorem field_rename (htype : key ≠ "type") (hname : key ≠ "name") :
    (v.rename ρ).field key = (v.field key).rename ρ := by
  rw [field, field, get?_rename_of_ne htype hname]
  cases v.get? key <;> simp

theorem field_name_rename {n : String} (hk : kindOf v = .str "Identifier")
    (hn : v.field "name" = .str n) : (v.rename ρ).field "name" = .str (ρ n) := by
  rw [field] at hn
  cases hget : v.get? "name" with
  | none => simp [hget] at hn
  | some w =>
    obtain rfl : w = .str n := by simpa [hget] using hn
    simp [field, get?_rename, hget, hk, onText]

@[simp] theorem isRecord_rename (v : Value) : (v.rename ρ).isRecord = v.isRecord := by
  cases v <;> simp [rename, isRecord]

@[simp] theorem isNull_rename (v : Value) : (v.rename ρ).isNull = v.isNull := by
  cases v <;> simp [rename, isNull]

@[simp] theorem truthy_rename (v : Value) : (v.rename ρ).truthy = v.truthy := by
  cases v with
  | list items => simp [rename, truthy, renameItems_eq_map]
  | record fields => cases fields <;> simp [rename, truthy, renameFields]
  | _ => simp [rename, truthy]

@[simp] theorem typeName_rename (v : Value) : (v.rename ρ).typeName = v.typeName := by
  cases v <;> simp [rename, typeName]

theorem keys_renameFields (isName : Bool) (fields : List (String × Value)) :
    (renameFields ρ isName fields).map (·.1) = fields.map (·.1) := by
  induction fields with
  | nil => rw [renameFields]
  | cons field rest ih =>
    obtain ⟨key, v⟩ := field
    rw [renameFields, List.map_cons, List.map_cons, ih]

theorem items?_rename (v : Value) : (v.rename ρ).items? = v.items?.map (List.map (rename ρ)) := by
  cases v with
  | list items => simp [rename, items?, renameItems_eq_map]
  | str s => simp [items?]
  | record fields =>
    have hkeys := congrArg (List.map str)
      (keys_renameFields (ρ := ρ) ((lookup "type" fields).any (·.isText "Identifier")) fields)
    simpa [rename, items?, Function.comp_def] using hkeys
  | _ => simp [rename, items?]

theorem ofValue?_rename (v : Value) :
    Separator.ofValue? (v.rename ρ) = Separator.ofValue? v := by
  cases v with
  | str s => rw [rename_str]
  | _ => simp [rename, Separator.ofValue?]

/-- **A field of a renamed tree is gone through like the field itself.** -/
theorem fieldAlike_rename {Q : Value → Prop} (htype : key ≠ "type") (hname : key ≠ "name")
    (h : ∀ w ∈ v.itemsAt key, Q w) :
    FieldAlike (fun x y => Q x ∧ y = x.rename ρ) (v.get? key) ((v.rename ρ).get? key) := by
  have hmap : ∀ {items : List Value}, (∀ x ∈ items, Q x) →
      List.Forall₂ (fun x y => Q x ∧ y = x.rename ρ) items (items.map (rename ρ)) := by
    intro items hitems
    rw [List.forall₂_map_right_iff, List.forall₂_same]
    exact fun x hx => ⟨hitems x hx, rfl⟩
  rw [get?_rename_of_ne htype hname]
  cases hfield : v.get? key with
  | none => exact .absent
  | some w =>
    have hitems : ∀ items, w.items? = some items → ∀ x ∈ items, Q x := fun items hw x hx =>
      h x (by simpa [itemsAt, itemsAt?, hfield, hw] using hx)
    have hrel : Option.Rel (List.Forall₂ fun x y => Q x ∧ y = x.rename ρ) w.items?
        (w.rename ρ).items? := by
      rw [items?_rename]
      cases hw : w.items? with
      | none => exact .none
      | some items => exact .some (hmap (hitems items hw))
    cases w with
    | list items =>
      rw [Option.map_some, rename, renameItems_eq_map]
      exact .list (hmap (hitems items rfl))
    | record fields =>
      refine .other (by simp) (by simp [rename]) ?_ hrel
      have hlength := congrArg List.length
        (keys_renameFields (ρ := ρ) ((lookup "type" fields).any (·.isText "Identifier")) fields)
      rw [List.length_map, List.length_map] at hlength
      simp only [rename, record.injEq, ← List.length_eq_one_iff, hlength]
    | _ => exact .other (by simp) (by simp [rename]) (by simp [rename]) hrel

end Value

/-! ## Renamed trees read alike -/

/-- What a tree has to get right for its names to be read: an identifier has a name, and a member
access has a separator. -/
@[mk_iff] structure Legible (v : Value) : Prop where
  name : kindOf v = .str "Identifier" → ∃ n, v.field "name" = .str n ∧ n ≠ ""
  indexer : kindOf v = .str "MemberExpression" →
    ∃ sep, Separator.ofValue? (v.field "indexer") = some sep

/-- A value is read, as something, when a tree is checked. -/
def ReadIn (tree : Value) (role : Role) (v : Value) : Prop :=
  Relation.ReflTransGen Reads (.block, tree) (role, v)

/-- **A legible tree**: every node that is read has its name or its separator. -/
def LegibleTree (tree : Value) : Prop := ∀ v, ReadIn tree .node v → Legible v

/-- All that is read of a tree is part of it. -/
theorem allNodes_of_readIn {P : Value → Prop} {tree v : Value} {role : Role}
    (h : tree.AllNodes P) (hv : ReadIn tree role v) : v.AllNodes P := by
  have hpart : ∀ {x y : Role × Value}, Relation.ReflTransGen Reads x y → x.2.AllNodes P →
      y.2.AllNodes P := by
    intro x y hxy hx
    induction hxy with
    | refl => exact hx
    | tail _ hread ih =>
      cases hread with
      | part | functionName | condition => exact ih.field _
      | item _ _ hw | statement hw => exact ih.itemsAt hw
      | functionBody | clauseBody => exact ih
  exact hpart hv h

theorem legibleTree_of_allNodes {tree : Value} (h : tree.AllNodes Legible) : LegibleTree tree := by
  intro v hv
  cases hr : v.isRecord with
  | true => exact (allNodes_of_readIn h hv).of_isRecord hr
  | false =>
    have hkind := kindOf_of_not_isRecord hr
    exact ⟨fun hk => by simp [hkind] at hk, fun hk => by simp [hkind] at hk⟩

namespace Failure

/-- A failure that holds a value which is no node holds the renamed one. -/
def rename (ρ : String → String) : Failure → Failure
  | .notANode v => .notANode (v.rename ρ)
  | f => f

/-- A failure is told in the same words. -/
theorem message?_rename {ρ : String → String} (f : Failure) :
    (f.rename ρ).message? = f.message? := by
  cases f with
  | notANode v => rw [rename, message?, message?, Value.typeName_rename]
  | _ => rfl

/-- Only a failure that shows a value can change with the names. -/
theorem rename_of_ne_notANode {ρ : String → String} {f : Failure} (h : ∀ v, f ≠ .notANode v) :
    f.rename ρ = f := by
  cases f with
  | notANode v => exact absurd rfl (h v)
  | _ => rfl

end Failure

theorem identifierName_eq {v : Value} {n : String} (hn : v.field "name" = .str n) (hne : n ≠ "") :
    identifierName v = .ok n := by
  simp [identifierName, hn, hne]

theorem ne_of_mem_nodeFields {k : String} :
    ∀ key ∈ nodeFields k, key ≠ "type" ∧ key ≠ "name" := by
  unfold nodeFields
  split <;> decide

theorem ne_of_mem_listFields {k : String} :
    ∀ key ∈ listFields k, key ≠ "type" ∧ key ≠ "name" := by
  unfold listFields
  split <;> decide

/-- **A renamed tree reads like the tree.** -/
theorem reading_rename (r : Renaming) {tree : Value} (h : LegibleTree tree) :
    Reading r.apply (Failure.rename r.apply) fun role v w =>
      ReadIn tree role v ∧ w = v.rename r.apply where
  join base leaf sep := r.apply_join base leaf sep
  self := r.apply_self
  ofKinds hf := Failure.rename_of_ne_notANode (by rintro v rfl; cases hf)
  kind := by rintro _ v _ ⟨-, rfl⟩; exact v.kindOf_rename
  isRecord := by rintro _ v _ ⟨-, rfl⟩; exact v.isRecord_rename
  notANode := by rintro v _ ⟨-, rfl⟩ -; rfl
  left := by
    rintro v _ ⟨-, rfl⟩
    rw [Value.field_rename (by decide) (by decide), Value.isNull_rename]
  name := by
    rintro v _ ⟨hv, rfl⟩ hk
    obtain ⟨n, hn, hne⟩ := (h v hv).name hk
    rw [identifierName_eq hn hne,
      identifierName_eq (Value.field_name_rename hk hn) (r.apply_ne_empty hne)]
    rfl
  indexer := by
    rintro v _ ⟨-, rfl⟩ -
    rw [Value.field_rename (by decide) (by decide), Value.ofValue?_rename]
  unknownIndexer := by
    rintro v _ ⟨hv, rfl⟩ hk hnone
    obtain ⟨sep, hsep⟩ := (h v hv).indexer hk
    cases hnone.symm.trans hsep
  part := by
    rintro v _ k ⟨hv, rfl⟩ hk key hkey
    obtain ⟨htype, hname⟩ := ne_of_mem_nodeFields key hkey
    exact ⟨hv.tail (.part hk hkey), Value.field_rename htype hname⟩
  items := by
    rintro v _ k ⟨hv, rfl⟩ hk key hkey
    obtain ⟨htype, hname⟩ := ne_of_mem_listFields key hkey
    exact Value.fieldAlike_rename htype hname fun w hw => hv.tail (.item hk hkey hw)
  functionName := by
    rintro v _ ⟨hv, rfl⟩ hk
    rw [Value.field_rename (by decide) (by decide)]
    exact ⟨Value.isNull_rename _, fun hne => ⟨hv.tail (.functionName hk hne), rfl⟩⟩
  isLocal := by
    rintro v _ ⟨-, rfl⟩ -
    rw [Value.field_rename (by decide) (by decide), Value.truthy_rename]
  functionBody := by
    rintro v _ ⟨hv, rfl⟩ hk
    exact ⟨hv.tail (.functionBody hk), rfl⟩
  body := by
    rintro v _ ⟨hv, rfl⟩
    exact Value.fieldAlike_rename (by decide) (by decide) fun w hw => hv.tail (.statement hw)
  condition := by
    rintro v _ ⟨hv, rfl⟩
    rw [Value.field_rename (by decide) (by decide)]
    exact ⟨Value.isNull_rename _, fun hne => ⟨hv.tail (.condition hne), rfl⟩⟩
  clauseBody := by
    rintro v _ ⟨hv, rfl⟩
    exact ⟨hv.tail .clauseBody, rfl⟩

/-! ## Renaming settings and findings -/

/-- Rename every name that settings speak of. -/
def Settings.rename (r : Renaming) (s : Settings) : Settings where
  globals := s.globals.map r.apply
  derived := s.derived.map fun entry => (r.apply entry.1, entry.2.map r.apply)
  separator := s.separator
  cloneSuffix := r.apply s.cloneSuffix

/-- Rename what a finding is about. -/
def Finding.rename (r : Renaming) (f : Finding) : Finding := ⟨f.kind, r.apply f.name⟩

/-- Rename what the findings of a report are about. -/
def Report.rename (r : Renaming) (report : Report) : Report :=
  { report with findings := report.findings.map (Finding.rename r) }

/-- Rename what a mark is about. -/
def Mark.rename (r : Renaming) : Mark → Mark
  | .undefinedUse n => .undefinedUse (r.apply n)
  | .redefinition n => .redefinition (r.apply n)
  | .fresh n => .fresh (r.apply n)

variable (r : Renaming)

theorem Settings.derivedFrom_rename (s : Settings) (callee : String) :
    (s.rename r).derivedFrom (r.apply callee) = (s.derivedFrom callee).map r.apply := by
  have hfind : (s.rename r).derived.find? (·.1 = r.apply callee) =
      (s.derived.find? (·.1 = callee)).map fun entry => (r.apply entry.1, entry.2.map r.apply) := by
    rw [rename, List.find?_map]
    simp only [Function.comp_def, r.apply_injective.eq_iff]
  rw [derivedFrom, derivedFrom, hfind]
  cases s.derived.find? (·.1 = callee) <;> rfl

theorem Finding.rename_injective : Function.Injective (Finding.rename r) := by
  intro f g h
  obtain ⟨hkind, hname⟩ := Finding.mk.inj h
  calc f = ⟨f.kind, f.name⟩ := rfl
    _ = ⟨g.kind, g.name⟩ := by rw [hkind, r.apply_injective hname]

/-- A renamed mark does to renamed findings what the mark does to findings. -/
theorem Mark.amend_rename (m : Mark) (fs : List Finding) :
    (m.rename r).amend (fs.map (Finding.rename r)) = (m.amend fs).map (Finding.rename r) := by
  cases m with
  | redefinition n => simp [rename, amend, Finding.rename]
  | undefinedUse n =>
    have hmem : ⟨.undefinedUse, r.apply n⟩ ∈ fs.map (Finding.rename r) ↔ ⟨.undefinedUse, n⟩ ∈ fs :=
      List.mem_map_of_injective (Finding.rename_injective r) (a := ⟨.undefinedUse, n⟩)
    rw [rename, amend, amend]
    simp only [hmem]
    split
    · rfl
    · simp [Finding.rename]
  | fresh n =>
    have hne : ∀ f : Finding, f.rename r ≠ ⟨.undefinedUse, r.apply n⟩ ↔ f ≠ ⟨.undefinedUse, n⟩ :=
      fun f => (Finding.rename_injective r).ne_iff (y := ⟨.undefinedUse, n⟩)
    rw [rename, amend, amend, List.filter_map]
    simp only [Function.comp_def, hne]

namespace Session

open Step (Aligned)

variable {r} {s t s' t' : Session} {n m : String} {d : Int}

/-- **Two sessions mirror each other**: the second one has the settings, the definitions and the
findings of the first, renamed. -/
structure Mirrors (r : Renaming) (s t : Session) : Prop where
  settings_eq : t.settings = s.settings.rename r
  defined_iff : ∀ k m, m ∈ t.scopes.definedAt k ↔ ∃ n ∈ s.scopes.definedAt k, r.apply n = m
  findings_eq : t.findings = s.findings.map (Finding.rename r)

namespace Mirrors

/-- What is seen in the mirror is the name of something seen. -/
theorem sees_iff (h : Mirrors r s t) :
    t.scopes.Sees m d ↔ ∃ n, s.scopes.Sees n d ∧ r.apply n = m := by
  constructor
  · rintro ⟨k, hk, hm⟩
    obtain ⟨n, hn, rfl⟩ := (h.defined_iff k m).1 hm
    exact ⟨n, ⟨k, hk, hn⟩, rfl⟩
  · rintro ⟨n, ⟨k, hk, hn⟩, rfl⟩
    exact ⟨k, hk, (h.defined_iff k _).2 ⟨n, hn, rfl⟩⟩

theorem sees_apply_iff (h : Mirrors r s t) : t.scopes.Sees (r.apply n) d ↔ s.scopes.Sees n d := by
  rw [h.sees_iff]
  constructor
  · rintro ⟨n', hn', he⟩
    exact r.apply_injective he ▸ hn'
  · exact fun hn => ⟨n, hn, rfl⟩

/-- Sessions that mirror each other may define names that do. -/
theorem defines (h : Mirrors r s t) {P Q : String → Prop} (hs : Defines d P s s')
    (ht : Defines d Q t t') (hPQ : ∀ m, Q m ↔ ∃ n, P n ∧ r.apply n = m) : Mirrors r s' t' where
  settings_eq := by rw [ht.settings_eq, hs.settings_eq]; exact h.settings_eq
  defined_iff k m := by
    rw [ht.mem_iff, h.defined_iff, hPQ]
    simp only [hs.mem_iff]
    constructor
    · rintro (⟨n, hn, rfl⟩ | ⟨hk, n, hn, rfl⟩)
      · exact ⟨n, Or.inl hn, rfl⟩
      · exact ⟨n, Or.inr ⟨hk, hn⟩, rfl⟩
    · rintro ⟨n, hn | ⟨hk, hn⟩, rfl⟩
      · exact Or.inl ⟨n, hn, rfl⟩
      · exact Or.inr ⟨hk, n, hn, rfl⟩
  findings_eq := by rw [ht.findings_eq, hs.findings_eq]; exact h.findings_eq

/-- Sessions that mirror each other may change their findings if these go on to. -/
theorem of_findings (h : Mirrors r s t) (hs : s'.settings = s.settings)
    (ht : t'.settings = t.settings)
    (hsdefined : ∀ k, s'.scopes.definedAt k = s.scopes.definedAt k)
    (htdefined : ∀ k, t'.scopes.definedAt k = t.scopes.definedAt k)
    (hfindings : t'.findings = s'.findings.map (Finding.rename r)) : Mirrors r s' t' where
  settings_eq := by rw [ht, hs]; exact h.settings_eq
  defined_iff k m := by rw [htdefined, hsdefined]; exact h.defined_iff k m
  findings_eq := hfindings

theorem declare (h : Mirrors r s t) (hs : Aligned d s) (ht : Aligned d t) (n : String)
    (isLocal : Bool) : Mirrors r (s.declare n d isLocal).2 (t.declare (r.apply n) d isLocal).2 := by
  refine h.of_findings settings_declare settings_declare (fun k => by rw [scopes_declare])
    (fun k => by rw [scopes_declare]) ?_
  rw [findings_declare_of_aligned hs, findings_declare_of_aligned ht, h.findings_eq,
    ← Mark.amend_rename]
  simp only [h.sees_apply_iff]
  split <;> rfl

theorem use (h : Mirrors r s t) (hs : Aligned d s) (ht : Aligned d t) (n : String) :
    Mirrors r (s.use n d).2 (t.use (r.apply n) d).2 := by
  refine h.of_findings settings_use settings_use (fun k => definedAt_use hs)
    (fun k => definedAt_use ht) ?_
  rw [findings_use_of_aligned hs, findings_use_of_aligned ht, h.findings_eq]
  simp only [h.sees_apply_iff]
  split
  · rfl
  · exact Mark.amend_rename r (.undefinedUse n) s.findings

theorem closeScope (h : Mirrors r s t) (hd : 0 < d) (hs : Aligned d s) (ht : Aligned d t) :
    Mirrors r s.closeScope.2 t.closeScope.2 := by
  refine ⟨?_, fun k m => ?_, ?_⟩
  · rw [settings_closeScope, settings_closeScope]
    exact h.settings_eq
  · rw [definedAt_closeScope hs hd, definedAt_closeScope ht hd]
    split
    · exact h.defined_iff k m
    · simp
  · rw [findings_closeScope, findings_closeScope]
    exact h.findings_eq

/-- **A call gives the mirrored members.** -/
theorem gains_iff (h : Mirrors r s t) (name callee m : String) :
    Gains t d (r.apply name) (r.apply callee) m ↔
      ∃ n, Gains s d name callee n ∧ r.apply n = m := by
  have htoken : t.settings.cloneToken =
      s.settings.separator.text ++ r.apply s.settings.cloneSuffix := by
    rw [h.settings_eq]
    rfl
  have hderived := s.settings.derivedFrom_rename r callee
  rw [← h.settings_eq] at hderived
  have hsep : t.settings.separator = s.settings.separator := by rw [h.settings_eq]; rfl
  constructor
  · rintro (@⟨source', rest', sep, hsource, hcallee, hsees⟩ | @⟨suffix', hsuffix⟩)
    · rw [htoken, ← String.append_assoc] at hcallee
      obtain ⟨source, suffix, rfl, rfl, hsuffix⟩ := r.exists_of_apply_eq hcallee
      obtain rfl := r.apply_injective hsuffix
      obtain ⟨member, hmember, he⟩ := h.sees_iff.1 hsees
      obtain ⟨source'', rest, rfl, hsame, rfl⟩ := r.exists_of_apply_eq he
      obtain rfl := r.apply_injective hsame
      refine ⟨name ++ sep.text ++ rest, .copied ?_ ?_ hmember, r.apply_join _ _ _⟩
      · rintro rfl
        exact hsource r.apply_empty
      · rw [Settings.cloneToken, String.append_assoc]
    · rw [hderived] at hsuffix
      obtain ⟨suffix, hmem, rfl⟩ := List.mem_map.1 hsuffix
      exact ⟨_, .listed hmem, by rw [hsep, r.apply_join]⟩
  · rintro ⟨n, @⟨source, rest, sep, hsource, rfl, hsees⟩ | @⟨suffix, hsuffix⟩, rfl⟩
    · rw [r.apply_join]
      have hcallee : r.apply (source ++ s.settings.cloneToken) =
          r.apply source ++ t.settings.cloneToken := by
        rw [Settings.cloneToken, ← String.append_assoc, r.apply_join, htoken, String.append_assoc]
      refine .copied (r.apply_ne_empty hsource) hcallee ?_
      rw [← r.apply_join]
      exact h.sees_apply_iff.2 hsees
    · rw [r.apply_join, ← hsep]
      exact .listed (by rw [hderived]; exact List.mem_map_of_mem hsuffix)

end Mirrors

/-- **Sessions go on to mirror each other.** -/
theorem lockstep_mirrors (r : Renaming) : Lockstep r.apply (Mirrors r) where
  noteLeft _ h := ⟨h.settings_eq, h.defined_iff, h.findings_eq⟩
  noteRight _ h := ⟨h.settings_eq, h.defined_iff, h.findings_eq⟩
  declare n isLocal hs ht h := h.declare hs ht n isLocal
  define n isLocal hs ht h :=
    h.defines (defines_define hs n isLocal) (defines_define ht (r.apply n) isLocal) fun m => by
      simp [eq_comm]
  use n hs ht h := h.use hs ht n
  assign n hs ht h := by
    refine h.defines (defines_assign hs n) (defines_assign ht (r.apply n)) fun m => ?_
    rw [h.sees_apply_iff]
    constructor
    · rintro ⟨rfl, hn⟩
      exact ⟨n, ⟨rfl, hn⟩, rfl⟩
    · rintro ⟨_, ⟨rfl, hn⟩, rfl⟩
      exact ⟨rfl, hn⟩
  derive n callee _ hs ht h :=
    h.defines (defines_derive hs n callee) (defines_derive ht (r.apply n) (r.apply callee))
      fun m => h.gains_iff n callee m
  openScope h := by
    refine ⟨h.settings_eq, fun k m => ?_, h.findings_eq⟩
    rw [scopes_openScope, scopes_openScope, Scopes.definedAt_push, Scopes.definedAt_push]
    exact h.defined_iff k m
  closeScope hd hs ht h := h.closeScope hd hs ht

theorem mirrors_start (settings : Settings) (tree : Value) :
    Mirrors r (start settings tree) (start (settings.rename r) (tree.rename r.apply)) := by
  have hA := fresh_start settings tree
  have hB := fresh_start (settings.rename r) (tree.rename r.apply)
  refine ⟨by rw [hA.settings_eq, hB.settings_eq], fun k m => ?_, ?_⟩
  · simp only [mem_definedAt_start, Settings.rename, List.mem_map]
    constructor
    · rintro ⟨hk, n, hn, rfl⟩
      exact ⟨n, ⟨hk, hn⟩, rfl⟩
    · rintro ⟨n, ⟨hk, hn⟩, rfl⟩
      exact ⟨hk, n, hn, rfl⟩
  · rw [hA.findings_eq, hB.findings_eq]
    rfl

/-- A failure told otherwise in the same words ends a run in the same way. -/
theorem conclude_rename (r : Renaming) (path : Option String) (findings : List Finding)
    (failure : Option Failure) :
    conclude path (findings.map (Finding.rename r)) (failure.map (Failure.rename r.apply)) =
      (conclude path findings failure).map (Report.rename r) := by
  cases failure with
  | none => rfl
  | some f =>
    cases hm : f.message? with
    | none =>
      have hsame : f.rename r.apply = f :=
        Failure.rename_of_ne_notANode (by rintro v rfl; cases hm)
      simp [conclude, hm, hsame, Except.map]
    | some m => simp [conclude, Failure.message?_rename, hm, Except.map, Report.rename]

end Session

/-- **Checking does not depend on how names are spelled.**  Rename every identifier of a legible
tree and every name of the settings; the report on the renamed tree is the report on the tree, with
the same errors and with the same findings in the same order, each about the renamed name.  If a
failure escapes, it is the same. -/
theorem verifyTree_rename (r : Renaming) (settings : Settings) (tree : Value)
    (path : Option String) (h : LegibleTree tree) :
    verifyTree (settings.rename r) (tree.rename r.apply) path =
      (verifyTree settings tree path).map (Report.rename r) := by
  have hsteps : blockSteps (tree.rename r.apply) =
      Step.mapAll r.apply (Failure.rename r.apply) (blockSteps tree) :=
    (reading_rename r h).blockSteps ⟨.refl, rfl⟩
  have hstart := Session.mirrors_start (r := r) settings tree
  have hwalk := (Session.lockstep_mirrors r).performAll (φ := Failure.rename r.apply) 0
    (blockSteps tree) (Session.aligned_walking settings tree)
    (Session.aligned_walking (settings.rename r) (tree.rename r.apply))
    ⟨hstart.settings_eq, hstart.defined_iff, hstart.findings_eq⟩
  rw [← hsteps, ← Session.walk_start, ← Session.walk_start] at hwalk
  rw [verifyTree, verifyTree, Session.fst_verify, Session.fst_verify, hwalk.findings_eq,
    Session.failure_walk_start, Session.failure_walk_start, hsteps, Step.stopsAll_mapAll,
    List.head?_map, Session.conclude_rename]

/-- A script in which a handle is copied and a member of the copy is called.  What copies it and the
handle change names. -/
theorem verifyTree_rename_swap :
    let clone : Part := ⟨"Clone", by decide, by decide⟩
    let handle : Part := ⟨"e1", by decide, by decide⟩
    let r := Renaming.swap clone handle (by decide) (by decide)
    let name (n : String) : Value := .record [("type", .str "Identifier"), ("name", .str n)]
    let member (base : Value) (sep n : String) : Value := .record
      [("type", .str "MemberExpression"), ("base", base), ("indexer", .str sep),
       ("identifier", name n)]
    let call (callee : Value) : Value := .record
      [("type", .str "CallExpression"), ("base", callee), ("arguments", .list [name "x"])]
    let declare (n : String) (value : Value) : Value := .record
      [("type", .str "LocalStatement"), ("variables", .list [name n]), ("init", .list [value])]
    let tree : Value := .record [("type", .str "Chunk"), ("body", .list
      [declare "e1" (call (member (name "Effect") "." "CreateEffect")),
       declare "e2" (call (member (name "e1") ":" "Clone")),
       .record [("type", .str "CallStatement"),
         ("expression", call (member (name "e2") ":" "SetCode"))]])]
    LegibleTree tree ∧
      verifyTree (Settings.bundled.rename r) (tree.rename r.apply) none =
        (verifyTree .bundled tree none).map (Report.rename r) := by
  intro clone handle r name member call declare tree
  have hlegible : LegibleTree tree := by
    refine legibleTree_of_allNodes ?_
    simp [tree, declare, call, member, name, Value.AllNodes, Value.AllNodesOfItems,
      Value.AllNodesOfFields, legible_iff, kindOf, Value.field, Value.get?, Value.lookup,
      Separator.ofValue?]
  exact ⟨hlegible, verifyTree_rename r .bundled tree none hlegible⟩

end DefUse
