import DefUse.Proofs.Check.Alignment
import DefUse.Proofs.Check.Members

/-!
# Proofs/Check/Handles — a handle has its members for as long as its scope is open

A **handle** of a factory is a name declared by a call of the factory, or by a call that copies a
handle whose scope is open (`Session.Handle`).  Between its declaration and the moment it is looked
at anything may have been visited, in deeper scopes as well, to any outcome: `Session.Later k`
relates two sessions between which the scope at `k` was not closed.

What the table lists for the factory is then visible under the name of the handle, from its
declaration on and wherever its scope is (`Session.visible_member_of_handle`).  The invariant is
that the members are among the definitions of the handle's own scope.  A copy finds them there
because it sees everything further out, and nothing that happens later takes a definition away.
-/

namespace DefUse

/-! ## Names are never empty -/

theorem ne_empty_of_joinedName {v : Value} {n : String} (h : joinedName v = .ok (some n)) :
    n ≠ "" := by
  have hjoined : ∀ (base leaf : String) (sep : Separator), base ++ sep.text ++ leaf ≠ "" := by
    intro base leaf sep hempty
    simpa [Separator.text] using congrArg String.length hempty
  have hrule := nameRule v
  generalize joinedName v = result at h hrule
  cases hrule with
  | identifier _ _ hne =>
    cases h
    exact hne
  | nameless | unknownIndexer | other => cases h
  | @member sep =>
    unfold joinLinks at h
    split at h <;> cases h
    exact hjoined _ _ _

theorem ne_empty_of_requireNames {place : Place} {items : List Value} {names : List String}
    (h : requireNames place items = .ok names) : ∀ n ∈ names, n ≠ "" := by
  induction items generalizing names with
  | nil =>
    cases h
    simp
  | cons v rest ih =>
    rw [requireNames] at h
    rcases hv : joinedName v with f | _ | n <;> simp only [requireName, hv] at h
    · cases h
    · cases h
    · rcases hrest : requireNames place rest with f | others <;> rw [hrest] at h
      · cases h
      · obtain rfl : n :: others = names := Except.ok.inj h
        intro m hm
        rcases List.mem_cons.1 hm with rfl | hm
        · exact ne_empty_of_joinedName hv
        · exact ih hrest m hm

/-! ## Declarations by a call -/

/-- **A local declaration by one call**: the names it declares, and the name of what is called. -/
structure DeclaresByCall (node : Value) (names : List String) (callee : String) : Prop where
  kind : kindOf node = .str "LocalStatement"
  names_eq : localNames node = .ok names
  call : ∃ value, node.get? "init" = some (.list [value]) ∧ calleeOf value = .ok (some callee)

/-- The steps that declare names and give them the members of a call. -/
def declaringSteps (names : List String) (callee : String) : List Step :=
  names.flatMap (fun n => [.declare n true, .define n true]) ++ names.map (.derive · callee)

namespace DeclaresByCall

variable {node : Value} {names : List String} {callee : String}

theorem ne_empty (h : DeclaresByCall node names callee) : ∀ n ∈ names, n ≠ "" := by
  have hnames := h.names_eq
  unfold localNames at hnames
  split at hnames
  · cases hnames
  · exact ne_empty_of_requireNames hnames

/-- **The handles come first**: they are declared and have their members before anything in the call
is looked at. -/
theorem statementSteps_eq (h : DeclaresByCall node names callee) :
    statementSteps node = .enter (.str "LocalStatement") ::
      (declaringSteps names callee ++ expressionsAt "init" node) := by
  obtain ⟨value, hinit, hcallee⟩ := h.call
  have hinitial : initialSteps names node = names.map (.derive · callee) := by
    simp only [initialSteps, hinit, derivedSteps, hcallee]
  rw [DefUse.statementSteps_eq, h.kind, if_pos (by simp), localSteps, h.names_eq]
  simp only [hinitial, declaringSteps]

end DeclaresByCall

namespace Step

variable {s : Session} {d : Int} {name callee m : String}

theorem performAll_append (d : Int) (steps rest : List Step) (s : Session) :
    performAll d (steps ++ rest) s = (performAll d steps s).andThen (performAll d rest) := by
  induction steps generalizing s with
  | nil => rfl
  | cons step steps ih =>
    rw [List.cons_append, performAll, performAll]
    rcases step.perform d s with ⟨_ | f, t⟩
    · exact ih t
    · rfl

/-- Declaring names and giving them members is granted wherever a scope is open. -/
theorem failure_of_subset_declaringSteps {names : List String} {steps : List Step}
    (hsteps : steps ⊆ .enter (.str "LocalStatement") :: declaringSteps names callee) :
    ∀ {s : Session}, s.scopes.Balanced → s.scopes.IsOpen d → (performAll d steps s).1 = none := by
  induction steps with
  | nil => exact fun _ _ => rfl
  | cons step steps ih =>
    intro s h hd
    have hopen : s.scopes.IsOpen (Scopes.target d true) := hd
    have hgranted : (step.perform d s).1 = none := by
      have hstep := hsteps List.mem_cons_self
      simp only [declaringSteps, List.mem_cons, List.mem_append, List.mem_flatMap, List.mem_map,
        List.not_mem_nil, or_false] at hstep
      rcases hstep with rfl | ⟨n, -, rfl | rfl⟩ | ⟨n, -, rfl⟩
      · rfl
      · rw [perform, Session.declare_of_isOpen h hopen]
      · rw [perform, Session.define_of_isOpen h hopen]
      · exact Session.failure_derive h hd n callee
    have hframe := frame_perform d step s h
    rw [performAll]
    rcases hperform : step.perform d s with ⟨f, t⟩
    rw [hperform] at hgranted hframe
    obtain rfl : f = none := hgranted
    exact ih (List.subset_of_cons_subset hsteps) (hframe.balanced h) (hframe.isOpen hd)

end Step

namespace Session

open Step (Aligned)

variable {s t u : Session} {settings : Settings} {k j : Nat} {name callee factory h m : String}

/-- What a call gives to a handle, it still gives when more is defined. -/
theorem Gains.mono {d e : Int} (hsettings : t.settings = s.settings)
    (hf : Scopes.Frame e s.scopes t.scopes) (hm : Gains s d name callee m) :
    Gains t d name callee m := by
  cases hm with
  | copied hsource hcallee hsees =>
    obtain ⟨k, hk, hmem⟩ := hsees
    exact .copied hsource (hsettings ▸ hcallee) ⟨k, hk, hf.defined_subset k hmem⟩
  | listed hsuffix =>
    rw [← hsettings] at hsuffix ⊢
    exact .listed hsuffix

/-- **A name is declared by a call** at a depth.  A local declaration of the name, by nothing but
the call, is visited as far as the name has its members, or any further: some of the steps for what
stands in the call, all of them or none may have been carried out too. -/
inductive DeclaredBy (callee name : String) (k : Nat) (s : Session) : Session → Prop
  | visited {node : Value} {names : List String} {checked : List Step}
      (hnode : DeclaresByCall node names callee) (hname : name ∈ names)
      (hchecked : checked <+: expressionsAt "init" node) :
      DeclaredBy callee name k s (Step.performAll k
        (.enter (.str "LocalStatement") :: (declaringSteps names callee ++ checked)) s).2

/-- The whole visit of the declaration is such a moment. -/
theorem declaredBy_visitStatement {node : Value} {names : List String}
    (hnode : DeclaresByCall node names callee) (hname : name ∈ names) (k : Nat) (s : Session) :
    DeclaredBy callee name k s (s.visitStatement node k).2 := by
  rw [visitStatement, hnode.statementSteps_eq]
  exact .visited hnode hname (List.prefix_refl _)

namespace DeclaredBy

theorem ne_empty (hdecl : DeclaredBy callee name k s t) : name ≠ "" := by
  obtain ⟨hnode, hname, -⟩ := hdecl
  exact hnode.ne_empty name hname

theorem settings_eq (hdecl : DeclaredBy callee name k s t) (hs : s.scopes.Balanced) :
    t.settings = s.settings := by
  obtain ⟨-, -, -⟩ := hdecl
  exact settings_performAll _ _ hs

theorem frame (hdecl : DeclaredBy callee name k s t) (hs : s.scopes.Balanced) :
    Scopes.Frame k s.scopes t.scopes := by
  obtain ⟨-, -, -⟩ := hdecl
  exact Step.frame_performAll _ _ s hs

/-- **A declaration by a call defines what the call gives.** -/
theorem mem_definedAt (hdecl : DeclaredBy callee name k s t) (hs : s.scopes.Balanced)
    (hk : s.scopes.IsOpen k) (hm : Gains s k name callee m) : m ∈ t.scopes.definedAt k := by
  obtain @⟨node, names, checked, -, hname, -⟩ := hdecl
  have hmem : Step.derive name callee ∈ declaringSteps names callee :=
    List.mem_append_right _ (List.mem_map_of_mem hname)
  -- cut the steps where the name is given its members: what comes before is granted
  obtain ⟨before, after, hcut⟩ := List.append_of_mem hmem
  have hsteps : Step.enter (.str "LocalStatement") :: (declaringSteps names callee ++ checked) =
      (Step.enter (.str "LocalStatement") :: before) ++
        Step.derive name callee :: (after ++ checked) := by
    rw [hcut, List.append_assoc]
    rfl
  have hsubset : Step.enter (.str "LocalStatement") :: before ⊆
      Step.enter (.str "LocalStatement") :: declaringSteps names callee :=
    List.cons_subset_cons _ (by rw [hcut]; exact List.subset_append_left _ _)
  have hgranted := Step.failure_of_subset_declaringSteps hsubset hs hk
  have hframe := Step.frame_performAll k (.enter (.str "LocalStatement") :: before) s hs
  have hsettings := settings_performAll k (.enter (.str "LocalStatement") :: before) hs
  rw [hsteps, Step.performAll_append]
  rcases hu : Step.performAll k (.enter (.str "LocalStatement") :: before) s with ⟨f, u⟩
  rw [hu] at hgranted hframe hsettings
  obtain rfl : f = none := hgranted
  have hderive := defines_derive_of_isOpen (hframe.balanced hs) (hframe.isOpen hk) name callee
  have hframe' := frame_derive (n := name) (d := k) (hframe.balanced hs) callee
  rw [Outcome.andThen_none, Step.performAll]
  refine Outcome.snd_andThen (motive := fun v => m ∈ v.scopes.definedAt k) ?_ fun v hv hmem => ?_
  · exact (hderive.mem_iff k m).2 (Or.inr ⟨rfl, hm.mono hsettings hframe⟩)
  · have hbalanced := hframe'.balanced (hframe.balanced hs)
    rw [show u.derive name callee k = (none, v) from hv] at hbalanced
    exact (Step.frame_performAll k _ v hbalanced).defined_subset k hmem

end DeclaredBy

/-! ## While a scope stays open -/

/-- **What may happen while the scope at a depth stays open**: anything is visited at any depth and
to any outcome, something is noted, a scope is opened, or one further in is closed. -/
inductive Moves (k : Nat) : Session → Session → Prop
  | visit (d : Int) (steps : List Step) (s : Session) : Moves k s (Step.performAll d steps s).2
  | note (s : Session) (e : Event) : Moves k s (s.note e)
  | openScope (s : Session) : Moves k s s.openScope
  | closeScope {s : Session} (hk : k < s.scopes.depth) : Moves k s s.closeScope.2

/-- A session comes after another one, the scope at a depth having stayed open. -/
def Later (k : Nat) : Session → Session → Prop := Relation.ReflTransGen (Moves k)

/-- **What is defined in a scope stays defined while it is open**, and so does all the rest that the
members of a handle depend on. -/
structure Retains (k : Nat) (s t : Session) : Prop where
  settings_eq : t.settings = s.settings
  balanced : t.scopes.Balanced
  isOpen : t.scopes.IsOpen k
  subset : s.scopes.definedAt k ⊆ t.scopes.definedAt k

theorem Retains.trans (h₁ : Retains k s t) (h₂ : Retains k t u) : Retains k s u :=
  ⟨h₂.settings_eq.trans h₁.settings_eq, h₂.balanced, h₂.isOpen,
    List.Subset.trans h₁.subset h₂.subset⟩

theorem retains_of_moves (hmove : Moves k s t) (hs : s.scopes.Balanced) (hk : s.scopes.IsOpen k) :
    Retains k s t := by
  cases hmove with
  | visit d steps =>
    have hframe := Step.frame_performAll d steps s hs
    exact ⟨settings_performAll d steps hs, hframe.balanced hs, hframe.isOpen hk,
      hframe.defined_subset k⟩
  | note e => exact ⟨rfl, hs, hk, List.Subset.refl _⟩
  | openScope =>
    obtain ⟨h0, hlt⟩ := hk
    refine ⟨rfl, hs.push, ⟨h0, ?_⟩, ?_⟩
    · simp only [scopes_openScope, Scopes.push, List.length_append, List.length_singleton]
      omega
    · rw [scopes_openScope, Scopes.definedAt_push]
      exact List.Subset.refl _
  | closeScope hlt =>
    have hlength := hs.depth_add_one
    have hstep := hs.inStep
    have hscopes : s.closeScope.2.scopes = s.scopes.dropInnermost := by
      rw [scopes_closeScope hs, if_pos (by omega)]
    refine ⟨settings_closeScope, ?_, ?_, ?_⟩
    · rw [hscopes]
      exact ⟨by simp [hstep], by simp only [List.length_dropLast]; omega⟩
    · rw [hscopes]
      exact ⟨Int.natCast_nonneg k, by simp only [List.length_dropLast]; omega⟩
    · rw [hscopes, Scopes.definedAt_dropInnermost (by omega)]
      exact List.Subset.refl _

theorem retains_of_later (hlater : Later k s t) (hs : s.scopes.Balanced)
    (hk : s.scopes.IsOpen k) : Retains k s t := by
  induction hlater with
  | refl => exact ⟨rfl, hs, hk, List.Subset.refl _⟩
  | tail _ hmove ih => exact ih.trans (retains_of_moves hmove ih.balanced ih.isOpen)

/-- A run closes no scope that was open where it stands, up to the end of the body it is in. -/
theorem later_of_reaches {p q : Point} (hr : Point.Reaches p q) (k : Nat) :
    Later k p.session q.session := by
  induction hr with
  | refl => exact .refl
  | tail _ hnext ih =>
    refine ih.tail ?_
    cases hnext with
    | @step d step rest s t hstep =>
      have hmove := Moves.visit (k := k) d [step] s
      rw [Step.performAll, hstep] at hmove
      exact hmove
    | body => exact .openScope _

theorem depth_le_of_reaches {p q : Point} (hr : Point.Reaches p q) : p.depth ≤ q.depth := by
  induction hr with
  | refl => exact Int.le_refl _
  | tail _ hnext ih =>
    refine Int.le_trans ih ?_
    cases hnext with
    | step => exact Int.le_refl _
    | body h => simp only at *; omega

/-! ## Handles -/

/-- **The handles of a factory**, with the depths they are declared at: made by a call of the
factory, or copied from a handle further out, and then kept while the scope stays open. -/
inductive Handle (settings : Settings) (factory : String) : Session → Nat → String → Prop
  | made {s t : Session} {k : Nat} {h : String} (hs : s.scopes.Balanced)
      (hsettings : s.settings = settings) (hk : s.scopes.IsOpen k)
      (hdecl : DeclaredBy factory h k s t) : Handle settings factory t k h
  | copied {s t : Session} {k j : Nat} {h copy : String} (hh : Handle settings factory s k h)
      (hkj : k ≤ j) (hj : s.scopes.IsOpen j)
      (hdecl : DeclaredBy (h ++ settings.cloneToken) copy j s t) : Handle settings factory t j copy
  | later {s t : Session} {k : Nat} {h : String} (hh : Handle settings factory s k h)
      (hlater : Later k s t) : Handle settings factory t k h

/-- **What a handle has**: all that the table lists for its factory, in its own scope. -/
structure Equipped (settings : Settings) (factory : String) (s : Session) (k : Nat) (h : String) :
    Prop where
  settings_eq : s.settings = settings
  balanced : s.scopes.Balanced
  isOpen : s.scopes.IsOpen k
  ne_empty : h ≠ ""
  mem : ∀ suffix ∈ settings.derivedFrom factory,
    h ++ settings.separator.text ++ suffix ∈ s.scopes.definedAt k

/-- Every handle is equipped, by induction on how it came about. -/
theorem equipped_of_handle (hh : Handle settings factory s k h) :
    Equipped settings factory s k h := by
  induction hh with
  | made hs hsettings hk hdecl =>
    have hframe := hdecl.frame hs
    refine ⟨(hdecl.settings_eq hs).trans hsettings, hframe.balanced hs, hframe.isOpen hk,
      hdecl.ne_empty, fun suffix hsuffix => hdecl.mem_definedAt hs hk ?_⟩
    subst hsettings
    exact .listed hsuffix
  | copied _ hkj hj hdecl ih =>
    have hframe := hdecl.frame ih.balanced
    refine ⟨(hdecl.settings_eq ih.balanced).trans ih.settings_eq, hframe.balanced ih.balanced,
      hframe.isOpen hj, hdecl.ne_empty,
      fun suffix hsuffix => hdecl.mem_definedAt ih.balanced hj ?_⟩
    -- the copy is made where the members of the handle are seen
    have hsettings := ih.settings_eq
    subst hsettings
    exact .copied ih.ne_empty rfl ⟨_, by omega, ih.mem suffix hsuffix⟩
  | later _ hlater ih =>
    have hkept := retains_of_later hlater ih.balanced ih.isOpen
    exact ⟨hkept.settings_eq.trans ih.settings_eq, hkept.balanced, hkept.isOpen, ih.ne_empty,
      fun suffix hsuffix => hkept.subset (ih.mem suffix hsuffix)⟩

/-- **A handle has its members for as long as its scope is open.**  For every handle of a factory,
made or copied any number of times, its scope is open, and what the table lists for the factory is
visible under its name at the depth of the handle and at every deeper one, where its use is granted
and reports nothing.  The same holds at every later point of a run that has come to the handle, up
to the end of the body the handle is declared in. -/
theorem visible_member_of_handle (hh : Handle settings factory s k h) :
    s.scopes.IsOpen k ∧ ∀ suffix ∈ settings.derivedFrom factory,
      let member := h ++ settings.separator.text ++ suffix
      (∀ d, (k : Int) ≤ d → s.scopes.IsOpen d →
        s.scopes.visible member d = .ok true ∧
          (s.use member d).1 = none ∧ (s.use member d).2.findings = s.findings) ∧
      ∀ steps p, Aligned k s → Point.Reaches ⟨k, steps, s⟩ p →
        p.session.scopes.visible member p.depth = .ok true ∧
          (p.session.use member p.depth).1 = none ∧
          (p.session.use member p.depth).2.findings = p.session.findings := by
  have hseen : ∀ {t : Session}, Handle settings factory t k h →
      ∀ suffix ∈ settings.derivedFrom factory, ∀ d, (k : Int) ≤ d → t.scopes.IsOpen d →
        t.scopes.visible (h ++ settings.separator.text ++ suffix) d = .ok true ∧
          (t.use (h ++ settings.separator.text ++ suffix) d).1 = none ∧
          (t.use (h ++ settings.separator.text ++ suffix) d).2.findings = t.findings := by
    intro t ht suffix hsuffix d hkd hd
    have hequipped := equipped_of_handle ht
    have hsees : t.scopes.Sees (h ++ settings.separator.text ++ suffix) d :=
      ⟨k, hkd, hequipped.mem suffix hsuffix⟩
    rw [hequipped.balanced.visible_eq_ok hd, use_of_isOpen hequipped.balanced hd, if_pos hsees]
    exact ⟨by simp [hsees], rfl, rfl⟩
  refine ⟨(equipped_of_handle hh).isOpen, fun suffix hsuffix => ⟨hseen hh suffix hsuffix, ?_⟩⟩
  intro steps p haligned hr
  have hp := Point.aligned_of_reaches hr haligned
  exact hseen (hh.later (later_of_reaches hr k)) suffix hsuffix p.depth (depth_le_of_reaches hr)
    hp.isOpen

/-- Two handles made by one call; after a statement that is given up and inside a function, the
second is copied, and the copy's member stands in the very call that makes the copy. -/
theorem visible_member_of_handle_copied :
    let name (n : String) : Value := .record [("type", .str "Identifier"), ("name", .str n)]
    let member (base n : String) : Value := .record
      [("type", .str "MemberExpression"), ("indexer", .str ":"), ("base", name base),
       ("identifier", name n)]
    let declares (names : List Value) (callee : Value) (arguments : List Value) : Value := .record
      [("type", .str "LocalStatement"), ("variables", .list names), ("init", .list
        [.record [("type", .str "CallExpression"), ("base", callee),
          ("arguments", .list arguments)]])]
    let settings : Settings := ⟨[], [("F", ["Set"])], .colon, "Clone"⟩
    let made := ((start settings .null).visitStatement (declares [name "a", name "b"] (name "F") [])
      0).2
    let inside := (made.visitStatement (.record [("type", .str "GotoStatement")]) 0).2.openScope
    let s := (inside.visitStatement
      (declares [name "c"] (member "b" "Clone") [member "c" "Set"]) 1).2
    Handle settings "F" s 1 "c" ∧ s.scopes.visible "c:Set" 1 = .ok true ∧
      (s.use "c:Set" 1).2.findings = s.findings := by
  intro name member declares settings made inside s
  have hok : ∀ {α : Type} {x : Except Failure α} {a : α}, x.toOption = some a → x = .ok a := by
    rintro α (f | b) a h
    · cases h
    · exact congrArg _ (Option.some.inj h)
  have hab : DeclaresByCall (declares [name "a", name "b"] (name "F") []) ["a", "b"] "F" :=
    ⟨rfl, hok (by decide +kernel), _, rfl, hok (by decide +kernel)⟩
  have hc : DeclaresByCall (declares [name "c"] (member "b" "Clone") [member "c" "Set"]) ["c"]
      ("b" ++ settings.cloneToken) :=
    ⟨rfl, hok (by decide +kernel), _, rfl, hok (by decide +kernel)⟩
  have hb : Handle settings "F" made 0 "b" :=
    .made ⟨rfl, by decide⟩ rfl (by decide) (declaredBy_visitStatement hab (by decide) 0 _)
  have hinside : Handle settings "F" inside 0 "b" :=
    hb.later ((Relation.ReflTransGen.single (.visit 0 _ made)).tail (.openScope _))
  have hcopy : Handle settings "F" s 1 "c" :=
    hinside.copied (Nat.zero_le 1) (by decide +kernel)
      (declaredBy_visitStatement hc (by decide) 1 _)
  obtain ⟨hopen, hvisible⟩ := visible_member_of_handle hcopy
  obtain ⟨hsees, -, huse⟩ := (hvisible "Set" (by decide)).1 1 (Int.le_refl 1) hopen
  exact ⟨hcopy, hsees, huse⟩

end Session

end DefUse
