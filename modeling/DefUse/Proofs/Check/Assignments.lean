import DefUse.Proofs.Check.Handles
import DefUse.Proofs.Scope.Lifetimes

/-!
# Proofs/Check/Assignments — what an assignment statement does

An assignment goes through its targets from the first to the last, and each one looks up its name in
the scopes that the ones before it have left.  Still the order does not matter.  One target defines
its name globally, unless the name was visible (`defines_assign_of_isOpen`), and by induction all of
them together define the names that were not visible before the first (`performAll_targets`).  What
is said there depends on the set of the targets alone.

So an assignment reports nothing and hides nothing, its targets may be written in any order and more
than once, and a second visit changes nothing (`Session.visitStatement_of_assigns`).
-/

namespace DefUse

variable {node node' bad : Value} {targets targets' before rest : List Value} {n : String}
  {d : Int} {f : Failure}

/-! ## Targets -/

/-- The name that a target of an assignment spells. -/
abbrev targetName (v : Value) : Except Failure String := requireName .assignmentTarget v

/-- The step for a target of an assignment. -/
abbrev targetStep (v : Value) : Step := .ofName .assign (targetName v)

/-- **All targets spell names.** -/
def AllNameable (targets : List Value) : Prop := ∀ v ∈ targets, ∃ n, targetName v = .ok n

/-- **A name is assigned to** if one of the targets spells it. -/
def Targeted (targets : List Value) (n : String) : Prop := ∃ v ∈ targets, targetName v = .ok n

/-- **An assignment to targets**: whatever it assigns, and whatever else it holds. -/
structure Assigns (node : Value) (targets : List Value) : Prop where
  kind : kindOf node = .str "AssignmentStatement"
  targets_eq : node.itemsAt? "variables" = some targets

/-- The assignment to targets that holds nothing else. -/
def assignmentTo (targets : List Value) : Value :=
  .record [("type", .str "AssignmentStatement"), ("variables", .list targets)]

theorem assigns_assignmentTo (targets : List Value) : Assigns (assignmentTo targets) targets :=
  ⟨rfl, rfl⟩

theorem targeted_cons {v : Value} :
    Targeted (v :: targets) n ↔ targetName v = .ok n ∨ Targeted targets n := by
  simp [Targeted]

/-- All targets spell names, or there is a first one that does not. -/
theorem allNameable_or_exists (targets : List Value) :
    AllNameable targets ∨ ∃ before bad rest f, targets = before ++ bad :: rest ∧
      AllNameable before ∧ targetName bad = .error f := by
  induction targets with
  | nil => exact Or.inl (List.forall_mem_nil _)
  | cons v targets ih =>
    cases hv : targetName v with
    | error f => exact Or.inr ⟨[], v, targets, f, rfl, List.forall_mem_nil _, hv⟩
    | ok n =>
      rcases ih with hall | ⟨before, bad, rest, f, rfl, hbefore, hbad⟩
      · exact Or.inl (List.forall_mem_cons.2 ⟨⟨n, hv⟩, hall⟩)
      · exact Or.inr ⟨v :: before, bad, rest, f, rfl,
          List.forall_mem_cons.2 ⟨⟨n, hv⟩, hbefore⟩, hbad⟩

/-- An assignment comes down to a step for each of its targets. -/
theorem Assigns.visitStatement_eq (h : Assigns node targets) (s : Session) (d : Int) :
    s.visitStatement node d =
      Step.performAll d (targets.map targetStep)
        (s.note (.entered (.str "AssignmentStatement") d)) := by
  rw [Session.visitStatement, statementSteps_eq, h.kind, if_neg (by simp), if_pos (by simp),
    assignmentSteps, h.targets_eq]
  rfl

namespace Session

variable {s t u : Session} {P : String → Prop}

/-! ## Sessions with the same sets -/

/-- **Sessions that differ in their trace at most**, and in the order in which names came into a
set. -/
structure SameSets (s t : Session) : Prop where
  settings_eq : s.settings = t.settings
  used_eq : s.scopes.used = t.scopes.used
  findings_eq : s.findings = t.findings
  length_eq : s.scopes.defined.length = t.scopes.defined.length
  mem_iff : ∀ k m, m ∈ s.scopes.definedAt k ↔ m ∈ t.scopes.definedAt k

/-- Sessions that define the same names are the same. -/
theorem Defines.sameSets (ht : Defines d P s t) (hu : Defines d P s u)
    (hlength : t.scopes.defined.length = u.scopes.defined.length) : SameSets t u where
  settings_eq := ht.settings_eq.trans hu.settings_eq.symm
  used_eq := ht.used_eq.trans hu.used_eq.symm
  findings_eq := ht.findings_eq.trans hu.findings_eq.symm
  length_eq := hlength
  mem_iff k m := by rw [ht.mem_iff, hu.mem_iff]

/-- **Names that are defined globally unless they are visible keep their owners.** -/
theorem Defines.exists_find (hdef : Defines 0 (fun m => P m ∧ ¬ s.scopes.Sees m d) s t)
    (hs : s.scopes.Balanced) (ht : t.scopes.Balanced) (hd : s.scopes.IsOpen d)
    (hd' : t.scopes.IsOpen d) (hn : P n) :
    ∃ o, s.scopes.find n d = .ok o ∧ t.scopes.find n d = .ok (some (o.getD 0)) := by
  refine ⟨s.scopes.owner? n d.toNat, Scopes.find_eq_ok_iff.2 ⟨_, hs.level_eq_ok hd, rfl⟩,
    Scopes.find_eq_ok_iff.2 ⟨_, ht.level_eq_ok hd', ?_⟩⟩
  have hsees := Scopes.isSome_owner?_toNat (s := s.scopes) (n := n) hd.1
  cases howner : s.scopes.owner? n d.toNat with
  | some j =>
    have hn' : s.scopes.Sees n d := by simpa [howner] using hsees
    rw [Option.getD_some, ← howner]
    exact Scopes.owner?_congr fun i => by simp [hdef.mem_iff, hn']
  | none =>
    have hn' : ¬ s.scopes.Sees n d := by simpa [howner] using hsees
    refine Scopes.owner?_eq_some_iff.2 ⟨⟨Nat.zero_le _, ?_⟩, fun i ⟨hi, hmem⟩ => ?_⟩
    · exact (hdef.mem_iff 0 n).2 (Or.inr ⟨rfl, hn, hn'⟩)
    · rcases (hdef.mem_iff i n).1 hmem with hmem | ⟨hzero, -⟩
      · exact absurd ⟨i, by have := hd.1; omega, hmem⟩ hn'
      · omega

end Session

/-! ## The steps of the targets -/

namespace Step

open Session (Defines Alike)

variable {s t : Session}

/-- A target that spells a name is assigned to, and the others follow. -/
theorem performAll_target {v : Value} (h : s.scopes.Balanced) (hd : s.scopes.IsOpen d)
    (hn : targetName v = .ok n) :
    performAll d ((v :: targets).map targetStep) s =
      performAll d (targets.map targetStep) (s.assign n d).2 := by
  have hgranted := (Session.assign_of_isOpen (n := n) h hd).1
  rw [List.map_cons, targetStep, hn, performAll, ofName, perform]
  rcases hassign : s.assign n d with ⟨f, t⟩
  rw [hassign] at hgranted
  obtain rfl : f = none := hgranted
  rfl

/-- **The targets define what was not visible before the first of them**, in the global scope, and
nothing else is changed. -/
theorem performAll_targets (hnames : AllNameable targets) :
    ∀ {s : Session}, s.scopes.Balanced → s.scopes.IsOpen d →
      (performAll d (targets.map targetStep) s).1 = none ∧
        Defines 0 (fun m => Targeted targets m ∧ ¬ s.scopes.Sees m d) s
          (performAll d (targets.map targetStep) s).2 := by
  induction targets with
  | nil => exact fun {s} _ _ => ⟨rfl, (Defines.refl 0 s).congr (by simp [Targeted])⟩
  | cons v targets ih =>
    intro s h hd
    obtain ⟨⟨n, hn⟩, hrest⟩ := List.forall_mem_cons.1 hnames
    have hfirst := Session.defines_assign_of_isOpen h hd n
    have hframe : Scopes.Frame d s.scopes (s.assign n d).2.scopes := Session.frame_assign h
    obtain ⟨hnone, hothers⟩ := ih hrest (hframe.balanced h) (hframe.isOpen hd)
    rw [performAll_target h hd hn]
    refine ⟨hnone, (hfirst.trans hothers).congr fun m => ?_⟩
    -- a target that was defined just now is visible, and not defined once more
    rw [targeted_cons, hn, hfirst.sees_iff (Int.le_refl 0), Except.ok.injEq]
    have hzero := hd.1
    by_cases hm : m = n
    · subst hm
      tauto
    · have hm' : n ≠ m := fun e => hm e.symm
      tauto

/-- Targets whose names are visible change nothing. -/
theorem alike_performAll_targets (hnames : AllNameable targets) (h : s.scopes.Balanced)
    (hd : s.scopes.IsOpen d) (hsees : ∀ n, Targeted targets n → s.scopes.Sees n d) :
    ∀ {t : Session}, Alike t s → Alike (performAll d (targets.map targetStep) t).2 s := by
  induction targets with
  | nil => exact fun ht => ht
  | cons v targets ih =>
    intro t ht
    obtain ⟨⟨n, hn⟩, hrest⟩ := List.forall_mem_cons.1 hnames
    have hseen : t.scopes.Sees n d := ht.scopes_eq ▸ hsees n (targeted_cons.2 (Or.inl hn))
    have ht' : t.scopes.Balanced := ht.scopes_eq ▸ h
    have hd' : t.scopes.IsOpen d := ht.scopes_eq ▸ hd
    have hfirst := Session.defines_assign_of_isOpen ht' hd' n
    have hscopes : (t.assign n d).2.scopes = t.scopes := by
      rw [(Session.assign_of_isOpen ht' hd').2, if_pos hseen]
    rw [performAll_target ht' hd' hn]
    exact ih hrest (fun m hm => hsees m (targeted_cons.2 (Or.inr hm)))
      ⟨hfirst.settings_eq.trans ht.settings_eq, hscopes.trans ht.scopes_eq,
        hfirst.findings_eq.trans ht.findings_eq⟩

end Step

namespace Session

variable {s : Session}

/-- The first target that spells no name ends an assignment. -/
theorem visitStatement_of_error (h : s.scopes.Balanced) (hd : s.scopes.IsOpen d)
    (hnode : Assigns node (before ++ bad :: rest)) (hbefore : AllNameable before)
    (hbad : targetName bad = .error f) :
    s.visitStatement node d = (some f, (s.visitStatement (assignmentTo before) d).2) := by
  rw [hnode.visitStatement_eq, (assigns_assignmentTo before).visitStatement_eq, List.map_append,
    Step.performAll_append]
  have hnone := (Step.performAll_targets hbefore
    (s := s.note (.entered (.str "AssignmentStatement") d)) h hd).1
  rcases hrun : Step.performAll d (before.map targetStep) _ with ⟨g, t⟩
  rw [hrun] at hnone
  obtain rfl : g = none := hnone
  rw [List.map_cons, targetStep, hbad]
  rfl

/-- What an assignment defines. -/
theorem defines_visitStatement (h : s.scopes.Balanced) (hd : s.scopes.IsOpen d)
    (hnode : Assigns node targets) (hnames : AllNameable targets) :
    (s.visitStatement node d).1 = none ∧
      Defines 0 (fun m => Targeted targets m ∧ ¬ s.scopes.Sees m d) s
        (s.visitStatement node d).2 := by
  rw [hnode.visitStatement_eq]
  obtain ⟨hnone, hdef⟩ := Step.performAll_targets hnames
    (s := s.note (.entered (.str "AssignmentStatement") d)) h hd
  exact ⟨hnone, hdef.settings_eq, hdef.used_eq, hdef.findings_eq, hdef.mem_iff⟩

/-- Assignments to the same targets have the same effect. -/
theorem sameSets_visitStatement (h : s.scopes.Balanced) (hd : s.scopes.IsOpen d)
    (hnode : Assigns node targets) (hnames : AllNameable targets)
    (hnode' : Assigns node' targets') (hsame : ∀ v, v ∈ targets' ↔ v ∈ targets) :
    (s.visitStatement node' d).1 = none ∧
      SameSets (s.visitStatement node' d).2 (s.visitStatement node d).2 := by
  have hnames' : AllNameable targets' := fun v hv => hnames v ((hsame v).1 hv)
  have htargeted : ∀ m, Targeted targets' m ↔ Targeted targets m := fun m =>
    exists_congr fun v => and_congr_left' (hsame v)
  have hframe := (s.frame_visitStatement h node d).1
  have hframe' := (s.frame_visitStatement h node' d).1
  obtain ⟨-, hdef⟩ := defines_visitStatement h hd hnode hnames
  obtain ⟨hnone', hdef'⟩ := defines_visitStatement h hd hnode' hnames'
  exact ⟨hnone', (hdef'.congr fun m => by rw [htargeted m]).sameSets hdef
    (hframe'.definedLength.trans hframe.definedLength.symm)⟩

/-- An assignment that is visited once more finds all its names visible. -/
theorem alike_visitStatement_again (h : s.scopes.Balanced) (hd : s.scopes.IsOpen d)
    (hnode : Assigns node targets) (hnames : AllNameable targets) :
    let t := (s.visitStatement node d).2
    (t.visitStatement node d).1 = none ∧ Alike (t.visitStatement node d).2 t := by
  intro t
  have hframe := (s.frame_visitStatement h node d).1
  obtain ⟨-, hdef⟩ := defines_visitStatement h hd hnode hnames
  have hsees : ∀ n, Targeted targets n → t.scopes.Sees n d := by
    intro n hn
    rw [hdef.sees_iff (Int.le_refl 0)]
    by_cases hn' : s.scopes.Sees n d
    · exact Or.inl hn'
    · exact Or.inr ⟨hd.1, hn, hn'⟩
  refine ⟨(defines_visitStatement (hframe.balanced h) (hframe.isOpen hd) hnode hnames).1, ?_⟩
  rw [hnode.visitStatement_eq]
  exact Step.alike_performAll_targets hnames (hframe.balanced h) (hframe.isOpen hd) hsees
    ((Alike.refl t).note_left _)

/-- **An assignment is silent, hides nothing and is free of order.**  Wherever a scope is open and
all targets spell names, nothing is reported or used, and the names that were not visible at the
depth are defined in the global scope.  So every name that is assigned to has the owner it had, or
the global scope if it had none; the targets can be put in any order and repeated, whatever is
assigned to them; and to visit the assignment once more changes nothing.  The first target that
spells no name ends the visit, which has then done what the targets before it do. -/
theorem visitStatement_of_assigns (h : s.scopes.Balanced) (hd : s.scopes.IsOpen d)
    (hnode : Assigns node targets) :
    let t := (s.visitStatement node d).2
    (AllNameable targets →
      (s.visitStatement node d).1 = none ∧
      Defines 0 (fun m => Targeted targets m ∧ ¬ s.scopes.Sees m d) s t ∧
      t.scopes.defined.length = s.scopes.defined.length ∧
      (∀ n, Targeted targets n →
        ∃ o, s.scopes.find n d = .ok o ∧ t.scopes.find n d = .ok (some (o.getD 0))) ∧
      (∀ node' targets', Assigns node' targets' → (∀ v, v ∈ targets' ↔ v ∈ targets) →
        (s.visitStatement node' d).1 = none ∧ SameSets (s.visitStatement node' d).2 t) ∧
      (t.visitStatement node d).1 = none ∧ Alike (t.visitStatement node d).2 t) ∧
    (¬ AllNameable targets →
      ∃ before bad rest f, targets = before ++ bad :: rest ∧ AllNameable before ∧
        targetName bad = .error f ∧
        s.visitStatement node d = (some f, (s.visitStatement (assignmentTo before) d).2)) := by
  intro t
  have hframe := (s.frame_visitStatement h node d).1
  constructor
  · intro hnames
    obtain ⟨hnone, hdef⟩ := defines_visitStatement h hd hnode hnames
    exact ⟨hnone, hdef, hframe.definedLength,
      fun n hn => hdef.exists_find h (hframe.balanced h) hd (hframe.isOpen hd) hn,
      fun node' targets' hnode' => sameSets_visitStatement h hd hnode hnames hnode',
      alike_visitStatement_again h hd hnode hnames⟩
  · intro hnames
    rcases allNameable_or_exists targets with hall | ⟨before, bad, rest, f, rfl, hbefore, hbad⟩
    · exact absurd hall hnames
    · exact ⟨before, bad, rest, f, rfl, hbefore, hbad,
        visitStatement_of_error h hd hnode hbefore hbad⟩

/-- An assignment to a local name and to a new member, which is repeated, in a scope below the
global one; and one that has a call between its targets. -/
theorem visitStatement_of_assigns_local :
    let name (n : String) : Value := .record [("type", .str "Identifier"), ("name", .str n)]
    let member : Value := .record [("type", .str "MemberExpression"), ("indexer", .str "."),
      ("base", name "b"), ("identifier", name "c")]
    let call : Value := .record [("type", .str "CallExpression"), ("base", name "f")]
    let s := ((start ⟨["g"], [], .colon, "Clone"⟩ .null).openScope.define "a" 1 true).2
    let t := (s.visitStatement (assignmentTo [name "a", member, member]) 1).2
    (s.scopes.Balanced ∧ s.scopes.IsOpen 1 ∧ AllNameable [name "a", member, member] ∧
        ¬ AllNameable [member, call, name "a"]) ∧
      (s.visitStatement (assignmentTo [name "a", member, member]) 1).1 = none ∧
      t.findings = s.findings ∧ t.scopes.find "a" 1 = .ok (some 1) ∧
      t.scopes.find "b.c" 1 = .ok (some 0) ∧
      SameSets (s.visitStatement (assignmentTo [member, name "a"]) 1).2 t ∧
      s.visitStatement (assignmentTo [member, call, name "a"]) 1 =
        (some (.unsupported (.str "CallExpression") .assignmentTarget none),
          (s.visitStatement (assignmentTo [member]) 1).2) := by
  intro name member call s t
  have hs : s.scopes.Balanced := ⟨by decide +kernel, by decide +kernel⟩
  have hd : s.scopes.IsOpen 1 := by decide +kernel
  have hname : ∀ n, n ≠ "" → joinedName (name n) = .ok (some n) := by
    intro n hne
    rw [joinedName_of_identifier rfl]
    change Except.map some (if n = "" then _ else _) = _
    rw [if_neg hne]
    rfl
  have ha : targetName (name "a") = .ok "a" := by
    rw [targetName, requireName, hname "a" (by decide)]
    rfl
  have hmember : targetName member = .ok "b.c" := by
    rw [targetName, requireName, joinedName_of_member rfl]
    change joinLinks .dot (joinedName (name "b")) (joinedName (name "c")) >>= _ = _
    rw [hname "b" (by decide), hname "c" (by decide)]
    rfl
  have hcall : targetName call =
      .error (.unsupported (.str "CallExpression") .assignmentTarget none) := by
    have hkind : kindOf call = .str "CallExpression" := rfl
    rw [targetName, requireName, joinedName_of_kind_ne (by simp [hkind]) (by simp [hkind]), hkind]
    rfl
  have hnames : AllNameable [name "a", member, member] := by simp [AllNameable, ha, hmember]
  have hunnamed : ¬ AllNameable [member, call, name "a"] := by simp [AllNameable, hcall]
  obtain ⟨hnone, hdef, -, howner, hsame, -⟩ :=
    (visitStatement_of_assigns hs hd (assigns_assignmentTo _)).1 hnames
  obtain ⟨o, ho, hlocal⟩ := howner "a" (by simp [Targeted, ha])
  obtain ⟨p, hp, hnew⟩ := howner "b.c" (by simp [Targeted, hmember])
  have ho' : s.scopes.find "a" 1 = .ok (some 1) := by rfl
  have hp' : s.scopes.find "b.c" 1 = .ok none := by rfl
  obtain rfl := Except.ok.inj (ho.symm.trans ho')
  obtain rfl := Except.ok.inj (hp.symm.trans hp')
  refine ⟨⟨hs, hd, hnames, hunnamed⟩, hnone, hdef.findings_eq, hlocal, hnew,
    (hsame _ _ (assigns_assignmentTo _) (by simp [or_comm])).2, ?_⟩
  exact visitStatement_of_error hs hd (assigns_assignmentTo ([member] ++ call :: [name "a"]))
    (by simp [AllNameable, hmember]) hcall

end Session

end DefUse
