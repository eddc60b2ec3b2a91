import DefUse.Lua.Grammar
import DefUse.Proofs.Lua.Adapter

/-!
# Proofs/Lua/Parse — the grammar reads syntax off its words

`Rule.Yields r P` says what a rule of the grammar reads: of the tokens it takes it keeps some, in
their order, and these words and the result have `P`.  Rules are put together by `Yields.bind`, so
what a rule yields follows its own text line by line.

`Grammatical fuel` collects what all the rules that call each other yield with one bound on their
nesting; `grammatical` shows it for every bound.
-/

namespace DefUse.Lua

open Grammar (namesAfter skipAttribute declaredAfter parameters parameterList functionName
  endsBlock)

variable {α β : Type}

/-! ## Nodes and their words -/

/-- The words of nodes are those of each, in a row. -/
theorem wordsOf_eq (ns : List Node) : wordsOf ns = ns.flatMap Node.words := by
  induction ns with
  | nil => rfl
  | cons n rest ih => rw [wordsOf, ih, List.flatMap_cons]

/-- Nodes are sound if each of them is. -/
theorem soundAll_iff {ns : List Node} : SoundAll ns ↔ ∀ n ∈ ns, n.Sound := by
  induction ns with
  | nil => exact iff_of_true trivial (List.forall_mem_nil _)
  | cons n rest ih => rw [SoundAll, ih, List.forall_mem_cons]

/-- **Nodes read off words**: they have these words, and they are sound. -/
structure Reads (ws : List Token) (ns : List Node) : Prop where
  words : wordsOf ns = ws
  sound : SoundAll ns

namespace Reads

variable {ws ws' ws'' : List Token} {n n' : Node} {ns ns' args body : List Node}

theorem nil : Reads [] [] := ⟨rfl, trivial⟩

/-- What is read one after the other is read together. -/
theorem append (h : Reads ws ns) (h' : Reads ws' ns') : Reads (ws ++ ws') (ns ++ ns') := by
  refine ⟨?_, soundAll_iff.2 (List.forall_mem_append.2
    ⟨soundAll_iff.1 h.sound, soundAll_iff.1 h'.sound⟩)⟩
  rw [← h.words, ← h'.words, wordsOf_eq, wordsOf_eq, wordsOf_eq, List.flatMap_append]

theorem cons (h : Reads ws [n]) (h' : Reads ws' ns) : Reads (ws ++ ws') (n :: ns) :=
  h.append h'

/-- A node by itself is read by its words. -/
theorem single (hwords : n.words = ws) (hsound : n.Sound) : Reads ws [n] :=
  ⟨by rw [wordsOf, wordsOf, List.append_nil, hwords], hsound, trivial⟩

theorem words_one (h : Reads ws [n]) : n.words = ws := by
  rw [← h.words, wordsOf, wordsOf, List.append_nil]

/-- Nodes that are read together are read one after the other. -/
theorem split (h : Reads ws (ns ++ ns')) :
    ∃ ws₁ ws₂, ws = ws₁ ++ ws₂ ∧ Reads ws₁ ns ∧ Reads ws₂ ns' := by
  obtain ⟨hns, hns'⟩ := List.forall_mem_append.1 (soundAll_iff.1 h.sound)
  refine ⟨wordsOf ns, wordsOf ns', ?_, ⟨rfl, soundAll_iff.2 hns⟩, ⟨rfl, soundAll_iff.2 hns'⟩⟩
  rw [← h.words, wordsOf_eq, wordsOf_eq, wordsOf_eq, List.flatMap_append]

/-- So are a node and those after it. -/
theorem uncons (h : Reads ws (n :: ns)) :
    ∃ ws₁ ws₂, ws = ws₁ ++ ws₂ ∧ Reads ws₁ [n] ∧ Reads ws₂ ns :=
  split (show Reads ws ([n] ++ ns) from h)

/-- Leaving out nodes leaves out their words. -/
theorem sublist (h : Reads ws ns) (hsub : ns'.Sublist ns) :
    ∃ ws', ws'.Sublist ws ∧ Reads ws' ns' := by
  refine ⟨wordsOf ns', ?_, rfl, soundAll_iff.2 fun n hn =>
    soundAll_iff.1 h.sound n (hsub.subset hn)⟩
  rw [← h.words, wordsOf_eq, wordsOf_eq]
  exact hsub.flatMap Node.words

theorem name {id : String} (hid : id ≠ "") : Reads [.name id] [.name id] := .single rfl hid

/-- A field is read by the words of its table and then its name. -/
theorem field {id : String} (h : Reads ws [n]) (hid : Reads ws' [.name id]) :
    Reads (ws ++ ws') [n.field id] :=
  .single (congrArg₂ (· ++ ·) h.words_one hid.words_one)
    ⟨h.sound.1, hid.sound.1, fun _ => ⟨id, rfl⟩⟩

/-- An operator is no word. -/
theorem binary (op : BinaryOp) (h : Reads ws [n]) (h' : Reads ws' [n']) :
    Reads (ws ++ ws') [.binary op.cls n n'] :=
  .single (congrArg₂ (· ++ ·) h.words_one h'.words_one)
    ⟨by cases op <;> decide, h.sound.1, h'.sound.1⟩

theorem unary (op : UnaryOp) (h : Reads ws [n]) : Reads ws [.unary op.cls n] :=
  .single h.words_one ⟨by cases op <;> decide, h.sound.1⟩

end Reads

/-! ## Chains -/

/-- Dropping calls leaves the other suffixes in place. -/
theorem dropPlainCalls_sublist (pending ss : List Suffix) :
    (dropPlainCalls pending ss).Sublist (pending.reverse ++ ss) := by
  fun_induction dropPlainCalls pending ss with
  | case1 pending => simp
  | case2 pending args rest ih =>
    have hrest : rest.Sublist (pending.reverse ++ .call args :: rest) :=
      (List.sublist_cons_self _ _).trans (List.sublist_append_right _ _)
    exact List.Sublist.trans ih hrest
  | case3 pending method args rest => exact .refl _
  | case4 pending s rest _ _ ih => simpa using ih

/-- What counts of the suffixes after parentheses stands in their order. -/
theorem afterParens_sublist (ss : List Suffix) : (afterParens ss).Sublist ss := by
  fun_induction afterParens ss with
  | case1 => exact .slnil
  | case2 args rest => exact .refl _
  | case3 method args rest => exact (dropPlainCalls_sublist [] rest).cons_cons _
  | case4 s rest _ _ ih => exact ih.cons_cons _

/-- The nodes a suffix adds to a chain. -/
def Suffix.nodes : Suffix → List Node
  | .field id => [.name id]
  | .index key => [key]
  | .call args => args
  | .invoke method args => .name method :: args

namespace Reads

variable {ws ws' ws'' : List Token} {n : Node} {args body : List Node}

/-- A suffix is read behind what it is attached to. -/
theorem attach {s : Suffix} (h : Reads ws [n]) (hs : Reads ws' s.nodes) :
    Reads (ws ++ ws') [s.attach n] := by
  cases s with
  | field id => exact h.field hs
  | index key =>
    exact .single (congrArg₂ (· ++ ·) h.words_one hs.words_one) ⟨h.sound.1, hs.sound.1, nofun⟩
  | call args =>
    exact .single (congrArg₂ (· ++ ·) h.words_one hs.words) ⟨h.sound.1, hs.sound⟩
  | invoke method args =>
    obtain ⟨ws₁, ws₂, rfl, hid, hargs⟩ := uncons hs
    rw [← List.append_assoc]
    exact .single
      (congrArg₂ (· ++ ·) (congrArg₂ (· ++ ·) h.words_one hid.words_one) hargs.words)
      ⟨⟨h.sound.1, hid.sound.1, method, rfl⟩, hargs.sound⟩

/-- A chain is read off its start and its suffixes. -/
theorem attachAll {ss : List Suffix} (h : Reads ws [n])
    (hs : Reads ws' (ss.flatMap Suffix.nodes)) :
    Reads (ws ++ ws') [ss.foldl Suffix.attach n] := by
  induction ss generalizing n ws ws' with
  | nil =>
    obtain rfl : [] = ws' := hs.words
    rw [List.append_nil]
    exact h
  | cons s rest ih =>
    obtain ⟨ws₁, ws₂, rfl, hfirst, hrest⟩ := split hs
    rw [← List.append_assoc]
    exact ih (h.attach hfirst) hrest

/-! ## Functions -/

/-- So are several of them, one after the other. -/
theorem path {ids : List String} (h : Reads ws [n]) (hids : Reads ws' (ids.map Node.name)) :
    Reads (ws ++ ws') [ids.foldl Node.field n] := by
  induction ids generalizing n ws ws' with
  | nil =>
    obtain rfl : [] = ws' := hids.words
    rw [List.append_nil]
    exact h
  | cons id rest ih =>
    obtain ⟨ws₁, ws₂, rfl, hid, hrest⟩ := uncons hids
    rw [← List.append_assoc]
    exact ih (h.field hid) hrest

/-- A function without a name is read by its parameters and its body. -/
theorem anonymousFunction (hargs : Reads ws args) (hbody : Reads ws' body) :
    Reads (ws ++ ws') [.anonymousFunction args (.block body)] :=
  .single (congrArg₂ (· ++ ·) hargs.words hbody.words) ⟨hargs.sound, hbody.sound⟩

/-- A local one has its name before them. -/
theorem localFunction (h : Reads ws [n]) (hargs : Reads ws' args) (hbody : Reads ws'' body) :
    Reads (ws ++ (ws' ++ ws'')) [.localFunction n args (.block body)] :=
  .single (congrArg₂ (· ++ ·) h.words_one (congrArg₂ (· ++ ·) hargs.words hbody.words))
    ⟨h.sound.1, hargs.sound, hbody.sound⟩

/-- One that is declared has the path of its name before them, and the method if there is one. -/
theorem declare {f : FunctionName} {ws₁ ws₂ : List Token} (hpath : Reads ws₁ [f.path])
    (hmethod : Reads ws₂ (f.method.toList.map Node.name)) (hargs : Reads ws args)
    (hbody : Reads ws' body) :
    Reads (ws₁ ++ ws₂ ++ (ws ++ ws')) [f.declare args (.block body)] := by
  unfold FunctionName.declare
  cases hm : f.method with
  | none =>
    rw [hm] at hmethod
    obtain rfl : [] = ws₂ := hmethod.words
    rw [List.append_nil]
    exact .single
      (congrArg₂ (· ++ ·) hpath.words_one (congrArg₂ (· ++ ·) hargs.words hbody.words))
      ⟨hpath.sound.1, hargs.sound, hbody.sound⟩
  | some m =>
    rw [hm] at hmethod
    exact .single
      (congrArg₂ (· ++ ·) (congrArg₂ (· ++ ·) hpath.words_one (words_one hmethod))
        (congrArg₂ (· ++ ·) hargs.words hbody.words))
      ⟨⟨hpath.sound.1, hmethod.sound.1, m, rfl⟩, hargs.sound, hbody.sound⟩

/-! ## Statements -/

/-- A local assignment is read by its targets and then its values. -/
theorem localNames (h : Reads ws args) (h' : Reads ws' body) :
    Reads (ws ++ ws') [.localAssign args (.list body)] :=
  .single (congrArg₂ (· ++ ·) h.words h'.words) ⟨h.sound, h'.sound⟩

/-- So is any other. -/
theorem assign (h : Reads ws args) (h' : Reads ws' body) :
    Reads (ws ++ ws') [.assign args body] :=
  .single (congrArg₂ (· ++ ·) h.words h'.words) ⟨h.sound, h'.sound⟩

/-- A return is read by what is returned. -/
theorem giveBack (h : Reads ws args) : Reads ws [.giveBack (.list args)] :=
  .single h.words h.sound

end Reads

/-! ## Rules -/

/-- **A token such as one reads**: a name is not empty, and a double is in its normal form. -/
def Token.Sound : Token → Prop
  | name id => id ≠ ""
  | numeral n => n.Canonical
  | _ => True

/-- **What a rule yields**: it takes tokens from the front, keeps some of them, and they and the
result have a property. -/
def Rule.Yields (r : Rule α) (P : List Token → α → Prop) : Prop :=
  ∀ ts, (∀ t ∈ ts, t.Sound) → ∀ a rest, r ts = some (a, rest) →
    ∃ read ws, ts = read ++ rest ∧ ws.Sublist read ∧ P ws a

namespace Rule.Yields

variable {r : Rule α} {f : α → Rule β} {P P' : List Token → α → Prop} {Q : List Token → β → Prop}

/-- A rule that takes no token yields what holds of none. -/
theorem pure {a : α} (h : P [] a) : Yields (Pure.pure a : Rule α) P := by
  intro ts _ b rest hb
  obtain ⟨rfl, rfl⟩ := Prod.mk.inj (Option.some.inj hb)
  exact ⟨[], [], rfl, .slnil, h⟩

/-- A rule that fails yields anything. -/
theorem failure : Yields (failure : Rule α) P := by
  intro ts _ b rest hb
  cases hb

/-- One rule after the other. -/
theorem bind (hr : Yields r P) (hf : ∀ ws a, P ws a → Yields (f a) fun ws' => Q (ws ++ ws')) :
    Yields (r >>= f) Q := by
  intro ts hts b rest hb
  obtain ⟨⟨a, mid⟩, hmid, hrest⟩ := Option.bind_eq_some_iff.1 hb
  obtain ⟨read, ws, rfl, hws, ha⟩ := hr ts hts a mid hmid
  have hmid := fun t ht => hts t (List.mem_append_right _ ht)
  obtain ⟨read', ws', rfl, hws', hb⟩ := hf ws a ha mid hmid b rest hrest
  exact ⟨read ++ read', ws ++ ws', (List.append_assoc ..).symm, hws.append hws', hb⟩

/-- A rule may be said to keep less. -/
theorem weaken (hr : Yields r P) (h : ∀ ws a, P ws a → ∃ ws', ws'.Sublist ws ∧ P' ws' a) :
    Yields r P' := by
  intro ts hts a rest ha
  obtain ⟨read, ws, rfl, hws, hP⟩ := hr ts hts a rest ha
  obtain ⟨ws', hsub, hP'⟩ := h ws a hP
  exact ⟨read, ws', rfl, hsub.trans hws, hP'⟩

/-- A rule of which nothing is kept. -/
theorem skip (hr : Yields r P) (hf : ∀ a, Yields (f a) Q) : Yields (r >>= f) Q := by
  refine bind (P := fun ws _ => ws = []) (hr.weaken fun ws a _ => ⟨[], List.nil_sublist _, rfl⟩) ?_
  rintro _ a rfl
  exact hf a

/-- What a rule yields may be changed together with what is said of it. -/
theorem map {g : α → β} (hr : Yields r P) (h : ∀ ws a, P ws a → Q ws (g a)) :
    Yields (g <$> r) Q := by
  rw [map_eq_pure_bind]
  refine hr.bind fun ws a ha => .pure ?_
  rw [List.append_nil]
  exact h ws a ha

/-- What follows a look at the first token may be shown for that token at the front. -/
theorem peek {f : Option Token → Rule β}
    (hf : ∀ t, ∀ ts, (∀ u ∈ ts, u.Sound) → ts.head? = t → ∀ b rest, f t ts = some (b, rest) →
      ∃ read ws, ts = read ++ rest ∧ ws.Sublist read ∧ Q ws b) : Yields (peek >>= f) Q :=
  fun ts hts b rest hb => hf ts.head? ts hts rfl b rest hb

/-- A token that is taken may be kept or not, as suits what follows it. -/
theorem next {f : Token → Rule β}
    (hf : ∀ t, Yields (f t) Q ∨ Yields (f t) fun ws => Q (t :: ws)) : Yields (next >>= f) Q := by
  intro ts hts b rest hb
  obtain ⟨⟨t, mid⟩, hmid, hrest⟩ := Option.bind_eq_some_iff.1 hb
  cases ts with
  | nil => cases hmid
  | cons u us =>
    obtain ⟨rfl, rfl⟩ := Prod.mk.inj (Option.some.inj hmid)
    have hus := fun t ht => hts t (List.mem_cons_of_mem _ ht)
    rcases hf u with hf | hf
    · obtain ⟨read, ws, rfl, hws, hb⟩ := hf us hus b rest hrest
      exact ⟨u :: read, ws, rfl, hws.cons u, hb⟩
    · obtain ⟨read, ws, rfl, hws, hb⟩ := hf us hus b rest hrest
      exact ⟨u :: read, u :: ws, rfl, hws.cons_cons u, hb⟩

end Rule.Yields

namespace Rule

/-- Looking at a token does not take it. -/
theorem yields_peek : Yields peek fun ws _ => ws = [] := by
  intro ts _ t rest h
  obtain ⟨-, rfl⟩ := Prod.mk.inj (Option.some.inj h)
  exact ⟨[], [], rfl, .slnil, rfl⟩

theorem yields_get : Yields (get : Rule (List Token)) fun ws _ => ws = [] := by
  intro ts _ t rest h
  obtain ⟨-, rfl⟩ := Prod.mk.inj (Option.some.inj h)
  exact ⟨[], [], rfl, .slnil, rfl⟩

/-- Taking a token takes that one. -/
theorem yields_next : Yields next fun ws t => ws = [t] := by
  intro ts _ t rest h
  cases ts with
  | nil => cases h
  | cons u us =>
    obtain ⟨rfl, rfl⟩ := Prod.mk.inj (Option.some.inj h)
    exact ⟨[u], [u], rfl, .refl _, rfl⟩

/-- The token at the front, taken and kept. -/
theorem yields_front {b : β} {Q : List Token → β → Prop} {t : Token} {ts : List Token}
    (hts : ts.head? = some t) (h : Q [t] b) :
    ∀ b' rest, (next >>= fun _ => Pure.pure b : Rule β) ts = some (b', rest) →
      ∃ read ws, ts = read ++ rest ∧ ws.Sublist read ∧ Q ws b' := by
  intro b' rest hb
  obtain ⟨us, rfl⟩ : ∃ us, ts = t :: us := List.head?_eq_some_iff.1 hts
  obtain ⟨rfl, rfl⟩ := Prod.mk.inj (Option.some.inj hb)
  exact ⟨[t], [t], rfl, .refl _, h⟩

/-- A token is taken if it is there. -/
theorem yields_accept (t : Token) : Yields (accept t) fun ws b => ws = if b then [t] else [] := by
  intro ts _ b rest h
  cases ts with
  | nil =>
    obtain ⟨rfl, rfl⟩ := Prod.mk.inj (Option.some.inj h)
    exact ⟨[], [], rfl, .slnil, rfl⟩
  | cons u us =>
    rw [accept] at h
    split at h
    · rename_i hu
      obtain ⟨rfl, rfl⟩ := Prod.mk.inj (Option.some.inj h)
      exact ⟨[u], [u], rfl, .refl _, by rw [hu]; rfl⟩
    · obtain ⟨rfl, rfl⟩ := Prod.mk.inj (Option.some.inj h)
      exact ⟨[], [], rfl, .slnil, rfl⟩

/-- A token that is expected is taken. -/
theorem yields_expect (t : Token) : Yields (expect t) fun ws _ => ws = [t] := by
  intro ts _ b rest h
  cases ts with
  | nil => cases h
  | cons u us =>
    rw [expect] at h
    split at h
    · rename_i hu
      obtain ⟨-, rfl⟩ := Prod.mk.inj (Option.some.inj h)
      exact ⟨[u], [u], rfl, .refl _, by rw [hu]⟩
    · cases h

/-- A name is read by itself. -/
theorem yields_name : Yields name fun ws id => Reads ws [.name id] := by
  intro ts hts id rest h
  unfold name at h
  split at h
  · obtain ⟨rfl, rfl⟩ := Prod.mk.inj (Option.some.inj h)
    exact ⟨[_], [_], rfl, .refl _, .name (hts _ List.mem_cons_self)⟩
  · cases h

end Rule

open Rule

/-! ## Names -/

/-- Names with something between them are read in a row. -/
theorem yields_namesAfter (sep : String) (fuel : Nat) :
    Yields (namesAfter sep fuel) fun ws ids => Reads ws (ids.map Node.name) := by
  induction fuel with
  | zero => exact .failure
  | succ fuel ih =>
    rw [namesAfter]
    refine .skip (yields_accept _) fun more => ?_
    split
    · refine yields_name.bind fun ws id hid => ih.bind fun ws' ids hids => .pure ?_
      simpa using hid.cons hids
    · exact .pure .nil

/-- What an attribute takes is not read. -/
theorem yields_skipAttribute : Yields skipAttribute fun _ _ => True := by
  unfold skipAttribute
  refine .skip (yields_accept _) fun more => ?_
  split
  · exact .skip yields_name fun _ => (yields_expect _).weaken fun ws _ _ => ⟨ws, .refl _, trivial⟩
  · exact .pure trivial

/-- Names with their attributes are read in a row. -/
theorem yields_declaredAfter (fuel : Nat) :
    Yields (declaredAfter fuel) fun ws ids => Reads ws (ids.map Node.name) := by
  induction fuel with
  | zero => exact .failure
  | succ fuel ih =>
    rw [declaredAfter]
    refine .skip (yields_accept _) fun more => ?_
    split
    · refine yields_name.bind fun ws id hid => .skip yields_skipAttribute fun _ => ?_
      refine ih.bind fun ws' ids hids => .pure ?_
      simpa using hid.cons hids
    · exact .pure .nil

/-- Parameters are read in a row. -/
theorem yields_parameters (fuel : Nat) :
    Yields (parameters fuel) fun ws params => Reads ws params.nodes := by
  induction fuel with
  | zero => exact .failure
  | succ fuel ih =>
    rw [parameters]
    refine .skip (yields_accept _) fun variadic => ?_
    split
    · exact .skip (yields_expect _) fun _ => .pure (.single rfl trivial)
    · refine yields_name.bind fun ws id hid => .skip (yields_accept _) fun more => ?_
      split
      · refine ih.bind fun ws' params hparams => .pure ?_
        simpa [Params.nodes] using hid.cons hparams
      · refine .skip (yields_expect _) fun _ => .pure ?_
        simpa [Params.nodes] using hid

/-- So are parameters between brackets. -/
theorem yields_parameterList (fuel : Nat) :
    Yields (parameterList fuel) fun ws params => Reads ws params.nodes := by
  refine .skip (yields_expect _) fun _ => .skip (yields_accept _) fun empty => ?_
  split
  · exact .pure .nil
  · exact yields_parameters fuel

/-- The name of a function is read by its path and its method. -/
theorem yields_functionName (fuel : Nat) :
    Yields (functionName fuel) fun ws f => ∃ ws₁ ws₂, ws = ws₁ ++ ws₂ ∧ Reads ws₁ [f.path] ∧
      Reads ws₂ (f.method.toList.map Node.name) := by
  refine yields_name.bind fun ws head hhead => (yields_namesAfter _ _).bind fun ws' ids hids => ?_
  refine .skip (yields_accept _) fun more => ?_
  have hpath : Reads (ws ++ ws') [ids.foldl Node.field (.name head)] := hhead.path hids
  dsimp only
  split
  · refine (yields_name.map (Q := fun ws m => Reads ws (m.toList.map Node.name))
      fun ws m hm => hm).bind fun ws'' method hmethod => .pure ?_
    exact ⟨ws ++ ws', ws'', by simp, hpath, hmethod⟩
  · exact .pure ⟨ws ++ ws', [], by simp, hpath, .nil⟩

/-! ## Rules that call each other -/

/-- **What the rules yield** whose calls nest no deeper than a bound: the words of sound syntax. -/
structure Grammatical (fuel : Nat) : Prop where
  block : Yields (Grammar.block fuel) fun ws ss => Reads ws ss
  statement : Yields (Grammar.statement fuel) fun ws s => Reads ws [s]
  clauses : Yields (Grammar.clauses fuel) fun ws o => o.words = ws ∧ o.Sound
  targets : Yields (Grammar.targets fuel) fun ws es => Reads ws es
  exprs : Yields (Grammar.exprs fuel) fun ws es => Reads ws es
  expr (least : Nat) : Yields (Grammar.expr fuel least) fun ws e => Reads ws [e]
  operators (least : Nat) {left : Node} {ws : List Token} (h : Reads ws [left]) :
    Yields (Grammar.operators fuel least left) fun ws' e => Reads (ws ++ ws') [e]
  operand : Yields (Grammar.operand fuel) fun ws e => Reads ws [e]
  chain : Yields (Grammar.chain fuel) fun ws c => Reads ws [c.expr]
  suffixes : Yields (Grammar.suffixes fuel) fun ws ss => Reads ws (ss.flatMap Suffix.nodes)
  arguments : Yields (Grammar.arguments fuel) fun ws es => Reads ws es
  fields : Yields (Grammar.fields fuel) fun _ _ => True
  tableField : Yields (Grammar.tableField fuel) fun _ _ => True

namespace Grammatical

variable {fuel : Nat}

/-- A block reads its statements in a row. -/
theorem block_succ (h : Grammatical fuel) :
    Yields (Grammar.block (fuel + 1)) fun ws ss => Reads ws ss := by
  rw [Grammar.block]
  refine .skip yields_peek fun t => ?_
  split
  · exact .pure .nil
  · refine .skip (yields_accept _) fun semicolon => ?_
    split
    · exact h.block
    · refine .skip (yields_accept _) fun returns => ?_
      split
      · refine .skip yields_peek fun t' => ?_
        have hrest : ∀ {ws : List Token} {es : List Node}, Reads ws es →
            Yields (do
              let _ ← accept (.symbol ";")
              if endsBlock (← Rule.peek) then return [Node.giveBack (.list es)] else failure)
              fun ws' ss => Reads (ws ++ ws') ss := by
          intro ws es hes
          refine .skip (yields_accept _) fun _ => .skip yields_peek fun _ => ?_
          split
          · refine .pure ?_
            simpa using hes.giveBack
          · exact .failure
        dsimp only
        split
        · exact hrest .nil
        · exact h.exprs.bind fun ws es hes => hrest hes
      · refine h.statement.bind fun ws s hs => h.block.bind fun ws' ss hss => .pure ?_
        simpa using hs.cons hss

/-- Clauses are read in a row, each with its keyword. -/
theorem clauses_succ (h : Grammatical fuel) :
    Yields (Grammar.clauses (fuel + 1)) fun ws o => o.words = ws ∧ o.Sound := by
  rw [Grammar.clauses]
  refine (yields_accept _).bind ?_
  rintro _ (_ | _) rfl
  · refine (yields_accept _).bind ?_
    rintro _ (_ | _) rfl
    · exact .skip (yields_expect _) fun _ => .pure ⟨rfl, trivial⟩
    · refine h.block.bind fun ws body hbody => .skip (yields_expect _) fun _ => .pure ?_
      exact ⟨by simp [Orelse.words, Body.words, hbody.words], hbody.sound⟩
  · refine (h.expr 0).bind fun ws e he => .skip (yields_expect _) fun _ => ?_
    refine h.block.bind fun ws' body hbody => h.clauses.bind fun ws'' o ho => .pure ?_
    refine ⟨?_, ⟨he.sound.1, hbody.sound⟩, ho.2⟩
    simp [Orelse.words, Body.words, he.words_one, hbody.words, ho.1]

/-- Targets of an assignment are read in a row. -/
theorem targets_succ (h : Grammatical fuel) :
    Yields (Grammar.targets (fuel + 1)) fun ws es => Reads ws es := by
  rw [Grammar.targets]
  refine .skip (yields_accept _) fun more => ?_
  split
  · refine h.chain.bind fun ws c hc => ?_
    split
    · refine h.targets.bind fun ws' es hes => .pure ?_
      simpa using hc.cons hes
    · exact .failure
  · exact .pure .nil

/-- Expressions with commas between them are read in a row. -/
theorem exprs_succ (h : Grammatical fuel) :
    Yields (Grammar.exprs (fuel + 1)) fun ws es => Reads ws es := by
  rw [Grammar.exprs]
  refine (h.expr 0).bind fun ws e he => .skip (yields_accept _) fun more => ?_
  split
  · refine h.exprs.bind fun ws' es hes => .pure ?_
    simpa using he.cons hes
  · refine .pure ?_
    simpa using he

/-- An expression reads its first operand and the operators behind it. -/
theorem expr_succ (h : Grammatical fuel) (least : Nat) :
    Yields (Grammar.expr (fuel + 1) least) fun ws e => Reads ws [e] := by
  rw [Grammar.expr]
  exact h.operand.bind fun ws e he => h.operators least he

/-- Operators are read behind the operand on their left, however they bind. -/
theorem operators_succ (h : Grammatical fuel) (least : Nat) {left : Node} {ws : List Token}
    (hleft : Reads ws [left]) :
    Yields (Grammar.operators (fuel + 1) least left) fun ws' e => Reads (ws ++ ws') [e] := by
  have hnone : Yields (pure left : Rule Node) fun ws' e => Reads (ws ++ ws') [e] :=
    .pure (by simpa using hleft)
  rw [Grammar.operators]
  refine .skip yields_peek fun t => ?_
  split
  · rename_i op _
    split
    · refine .skip yields_next fun _ => (h.expr _).bind fun ws' right hright => ?_
      simpa using h.operators least (hleft.binary op hright)
    · exact hnone
  · exact hnone

/-- Suffixes are read in a row. -/
theorem suffixes_succ (h : Grammatical fuel) :
    Yields (Grammar.suffixes (fuel + 1)) fun ws ss => Reads ws (ss.flatMap Suffix.nodes) := by
  rw [Grammar.suffixes]
  refine .skip yields_peek fun t => .skip (yields_accept _) fun isField => ?_
  split
  · refine yields_name.bind fun ws id hid => h.suffixes.bind fun ws' ss hss => .pure ?_
    simpa [Suffix.nodes] using hid.cons hss
  · refine .skip (yields_accept _) fun isIndex => ?_
    split
    · refine (h.expr 0).bind fun ws key hkey => .skip (yields_expect _) fun _ => ?_
      refine h.suffixes.bind fun ws' ss hss => .pure ?_
      simpa [Suffix.nodes] using hkey.cons hss
    · refine .skip (yields_accept _) fun isMethod => ?_
      split
      · refine yields_name.bind fun ws id hid => h.arguments.bind fun ws' args hargs => ?_
        refine h.suffixes.bind fun ws'' ss hss => .pure ?_
        simpa [Suffix.nodes] using hid.cons (hargs.append hss)
      · split
        · refine h.arguments.bind fun ws args hargs => h.suffixes.bind fun ws' ss hss => .pure ?_
          simpa [Suffix.nodes] using hargs.append hss
        · exact .pure .nil

/-- Arguments are read in a row, between brackets or not. -/
theorem arguments_succ (h : Grammatical fuel) :
    Yields (Grammar.arguments (fuel + 1)) fun ws es => Reads ws es := by
  rw [Grammar.arguments]
  refine .next fun t => ?_
  split
  · refine Or.inl (.skip (yields_accept _) fun empty => ?_)
    split
    · exact .pure .nil
    · refine h.exprs.bind fun ws es hes => .skip (yields_expect _) fun _ => .pure ?_
      simpa using hes
  · refine Or.inl (.skip h.fields fun _ => .pure ?_)
    exact .single rfl trivial
  · rename_i s
    refine Or.inr (.pure ?_)
    exact .single rfl trivial
  · exact Or.inl .failure

/-- An operand is a literal, a function, a table or a chain. -/
theorem operand_succ (h : Grammatical fuel) :
    Yields (Grammar.operand (fuel + 1)) fun ws e => Reads ws [e] := by
  rw [Grammar.operand]
  refine .skip yields_peek fun t => ?_
  split
  · rename_i op _
    refine .skip yields_next fun _ => (h.expr _).bind fun ws e he => .pure ?_
    simpa using he.unary op
  · refine .peek fun t' ts hts hhead => ?_
    split
    · exact Yields.skip (yields_expect _) (fun _ => .pure (.single rfl trivial)) ts hts
    · exact Yields.skip (yields_expect _) (fun _ => .pure (.single rfl trivial)) ts hts
    · exact Yields.skip (yields_expect _) (fun _ => .pure (.single rfl trivial)) ts hts
    · exact yields_front hhead (.single rfl (hts _ (List.mem_of_head? hhead)))
    · exact yields_front hhead (.single rfl trivial)
    · exact Yields.skip (yields_expect _) (fun _ => .pure (.single rfl trivial)) ts hts
    · exact Yields.skip (yields_expect _)
        (fun _ => .skip h.fields fun _ => .pure (.single rfl trivial)) ts hts
    · refine Yields.skip (yields_expect _) (fun _ => ?_) ts hts
      refine (yields_parameterList fuel).bind fun ws params hparams => ?_
      refine h.block.bind fun ws' body hbody => .skip (yields_expect _) fun _ => .pure ?_
      simpa using hparams.anonymousFunction hbody
    · refine Yields.bind h.chain (fun ws c hc => .pure ?_) ts hts
      simpa using hc

/-- A chain is read by what it starts with and its suffixes, but for calls that are dropped. -/
theorem chain_succ (h : Grammatical fuel) :
    Yields (Grammar.chain (fuel + 1)) fun ws c => Reads ws [c.expr] := by
  have hkept : Yields (Grammar.chain (fuel + 1)) fun ws c =>
      ∃ ws', ws'.Sublist ws ∧ Reads ws' [c.expr] := by
    rw [Grammar.chain]
    refine .skip (yields_accept _) fun parens => ?_
    split
    · refine (h.expr 0).bind fun ws e he => .skip (yields_expect _) fun _ => ?_
      refine h.suffixes.bind fun ws' ss hss => .pure ?_
      have hcounts := (afterParens_sublist ss).flatMap Suffix.nodes
      obtain ⟨ws'', hsub, hcount⟩ := hss.sublist hcounts
      refine ⟨ws ++ ws'', ?_, he.attachAll hcount⟩
      rw [List.append_nil]
      exact (List.Sublist.refl ws).append hsub
    · refine yields_name.bind fun ws id hid => h.suffixes.bind fun ws' ss hss => .pure ?_
      exact ⟨ws ++ ws', by simp, hid.attachAll hss⟩
  exact hkept.weaken fun ws c hc => hc

/-- **A statement is read by the words that it keeps.**  One case for each keyword. -/
theorem statement_succ (h : Grammatical fuel) :
    Yields (Grammar.statement (fuel + 1)) fun ws s => Reads ws [s] := by
  rw [Grammar.statement]
  refine .skip yields_peek fun t => ?_
  split
  · exact .skip (yields_expect _) fun _ => .skip yields_name fun _ =>
      .skip (yields_expect _) fun _ => .pure (.single rfl trivial)
  · exact .skip (yields_expect _) fun _ => .pure (.single rfl trivial)
  · exact .skip (yields_expect _) fun _ => .skip yields_name fun _ => .pure (.single rfl trivial)
  · exact .skip (yields_expect _) fun _ => .skip h.block fun _ =>
      .skip (yields_expect _) fun _ => .pure (.single rfl trivial)
  · exact .skip (yields_expect _) fun _ => .skip (h.expr 0) fun _ =>
      .skip (yields_expect _) fun _ => .skip h.block fun _ =>
      .skip (yields_expect _) fun _ => .pure (.single rfl trivial)
  · exact .skip (yields_expect _) fun _ => .skip h.block fun _ =>
      .skip (yields_expect _) fun _ => .skip (h.expr 0) fun _ => .pure (.single rfl trivial)
  · refine .skip (yields_expect _) fun _ => .skip yields_name fun _ =>
      .skip (yields_accept _) fun numeric => ?_
    have hbody : ∀ kind, Yields (do
        word "do"
        let _ ← Grammar.block fuel
        word "end"
        return Node.other kind) fun ws s => Reads ws [s] := fun kind =>
      .skip (yields_expect _) fun _ => .skip h.block fun _ =>
        .skip (yields_expect _) fun _ => .pure (.single rfl trivial)
    split
    · refine .skip (h.expr 0) fun _ => .skip (yields_expect _) fun _ => .skip (h.expr 0) fun _ =>
        .skip (yields_accept _) fun step => ?_
      dsimp only
      split
      · exact .skip (h.expr 0) fun _ => hbody _
      · exact hbody _
    · exact .skip (yields_namesAfter _ _) fun _ => .skip (yields_expect _) fun _ =>
        .skip h.exprs fun _ => hbody _
  · refine (yields_expect _).bind ?_
    rintro _ _ rfl
    refine (h.expr 0).bind fun ws e he => .skip (yields_expect _) fun _ => ?_
    refine h.block.bind fun ws' body hbody => h.clauses.bind fun ws'' cs hcs => .pure ?_
    refine .single ?_ ⟨⟨he.sound.1, hbody.sound⟩, hcs.2⟩
    simp [Node.words, Body.words, he.words_one, hbody.words, hcs.1]
  · refine .skip (yields_expect _) fun _ => (yields_functionName fuel).bind fun ws f hf => ?_
    refine (yields_parameterList fuel).bind fun ws' params hparams => ?_
    refine h.block.bind fun ws'' body hbody => .skip (yields_expect _) fun _ => .pure ?_
    obtain ⟨ws₁, ws₂, rfl, hpath, hmethod⟩ := hf
    simpa using hpath.declare hmethod hparams hbody
  · refine .skip (yields_expect _) fun _ => .skip (yields_accept _) fun isFunction => ?_
    split
    · refine yields_name.bind fun ws id hid => ?_
      refine (yields_parameterList fuel).bind fun ws' params hparams => ?_
      refine h.block.bind fun ws'' body hbody => .skip (yields_expect _) fun _ => .pure ?_
      simpa using hid.localFunction hparams hbody
    · refine yields_name.bind fun ws id hid => .skip yields_skipAttribute fun _ => ?_
      refine (yields_declaredAfter fuel).bind fun ws' ids hids => ?_
      refine .skip (yields_accept _) fun given => ?_
      have hnames : Reads (ws ++ ws') ((id :: ids).map Node.name) := hid.cons hids
      dsimp only
      split
      · refine h.exprs.bind fun ws'' es hes => .pure ?_
        simpa using hnames.localNames hes
      · refine .pure ?_
        simpa using hnames.localNames .nil
  · refine h.chain.bind fun ws c hc => ?_
    split
    · exact .pure (by simpa using hc)
    · split
      · refine h.targets.bind fun ws' es hes => .skip (yields_expect _) fun _ => ?_
        refine h.exprs.bind fun ws'' values hvalues => .pure ?_
        simpa using (hc.cons hes).assign hvalues
      · exact .failure

/-- Of a table nothing is kept. -/
theorem fields_succ (h : Grammatical fuel) :
    Yields (Grammar.fields (fuel + 1)) fun _ _ => True := by
  rw [Grammar.fields]
  refine .skip (yields_accept _) fun closes => ?_
  split
  · exact .pure trivial
  · refine .skip h.tableField fun _ => .skip (yields_accept _) fun comma => ?_
    split
    · exact h.fields
    · refine .skip (yields_accept _) fun semicolon => ?_
      split
      · exact h.fields
      · exact (yields_expect _).weaken fun ws _ _ => ⟨ws, .refl _, trivial⟩

theorem tableField_succ (h : Grammatical fuel) :
    Yields (Grammar.tableField (fuel + 1)) fun _ _ => True := by
  have hvalue : Yields (do let _ ← Grammar.expr fuel 0) fun _ _ => True :=
    .skip (h.expr 0) fun _ => .pure trivial
  rw [Grammar.tableField]
  refine .skip (yields_accept _) fun computed => ?_
  split
  · exact .skip (h.expr 0) fun _ => .skip (yields_expect _) fun _ =>
      .skip (yields_expect _) fun _ => hvalue
  · refine .skip yields_get fun ts => ?_
    split
    · exact .skip yields_next fun _ => .skip yields_next fun _ => hvalue
    · exact hvalue

end Grammatical

/-- **The rules yield the words of trees that conform**, however deep they nest. -/
theorem grammatical (fuel : Nat) : Grammatical fuel := by
  induction fuel with
  | zero =>
    constructor
    all_goals intros; exact .failure
  | succ fuel ih =>
    exact ⟨ih.block_succ, ih.statement_succ, ih.clauses_succ, ih.targets_succ, ih.exprs_succ,
      ih.expr_succ, ih.operators_succ, ih.operand_succ, ih.chain_succ, ih.suffixes_succ,
      ih.arguments_succ, ih.fields_succ, ih.tableField_succ⟩

end DefUse.Lua
