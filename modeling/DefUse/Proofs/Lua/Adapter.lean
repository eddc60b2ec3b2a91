import DefUse.Proofs.Attempt
import DefUse.Proofs.Lua.Words

/-!
# Proofs/Lua/Adapter — what a parser's syntax becomes

Of a parser little is taken: `Sound` says that no name in its syntax is empty, that a double is in
its normal form, and that what stands after a dot or a colon is a name.  The words of the syntax are
read off its nodes from left to right.

Every function of the adapter keeps them.  If it comes to a tree, then the tree has the words of the
syntax in their order, all its nodes conform, and it is proper (`converted_convert`).  The proof has
a case for each class of nodes; a class that has no rule comes to no tree.
-/

namespace DefUse.Lua

/-! ## Syntax -/

/-- The node is a name. -/
def Node.IsName (n : Node) : Prop := ∃ id, n = .name id

/-- The class is not one of a statement that is kept by its kind alone. -/
abbrev IsOperator (cls : String) : Prop := unmodelledStatements.lookup cls = none

mutual

/-- **What is taken of a parser's nodes**: no name is empty, a double is in its normal form, and
what stands after a dot or a colon is a name. -/
def Node.Sound : Node → Prop
  | .localAssign targets values => SoundAll targets ∧ values.Sound
  | .assign targets values => SoundAll targets ∧ SoundAll values
  | .method source name args body =>
    (source.Sound ∧ name.Sound ∧ name.IsName) ∧ SoundAll args ∧ body.Sound
  | .localFunction name args body => name.Sound ∧ SoundAll args ∧ body.Sound
  | .function name args body => name.Sound ∧ SoundAll args ∧ body.Sound
  | .branch test body orelse => (test.Sound ∧ body.Sound) ∧ orelse.Sound
  | .giveBack values => values.Sound
  | .name id => id ≠ ""
  | .index value idx dotted => value.Sound ∧ idx.Sound ∧ (dotted = true → idx.IsName)
  | .invoke source func args => (source.Sound ∧ func.Sound ∧ func.IsName) ∧ SoundAll args
  | .call func args => func.Sound ∧ SoundAll args
  | .number n => n.Canonical
  | .binary cls left right => IsOperator cls ∧ left.Sound ∧ right.Sound
  | .unary cls operand => IsOperator cls ∧ operand.Sound
  | .anonymousFunction args body => SoundAll args ∧ body.Sound
  | _ => True

/-- Every node is sound. -/
def SoundAll : List Node → Prop
  | [] => True
  | n :: rest => n.Sound ∧ SoundAll rest

/-- The statements of a body are sound. -/
def Body.Sound : Body → Prop
  | .absent => True
  | .block items => SoundAll items
  | .bare items => SoundAll items

/-- The clauses are sound. -/
def Orelse.Sound : Orelse → Prop
  | .absent => True
  | .elseIf test body orelse => (test.Sound ∧ body.Sound) ∧ orelse.Sound
  | .otherwise body => body.Sound

/-- The values of a declaration are sound. -/
def Items.Sound : Items → Prop
  | .absent => True
  | .list items => SoundAll items

/-- The values of a `return` are sound. -/
def Values.Sound : Values → Prop
  | .absent => True
  | .list items => SoundAll items
  | .single item => item.Sound

end

mutual

/-- **The words of a node**, from left to right. -/
def Node.words : Node → List Token
  | .localAssign targets values => wordsOf targets ++ values.words
  | .assign targets values => wordsOf targets ++ wordsOf values
  | .method source name args body => (source.words ++ name.words) ++ (wordsOf args ++ body.words)
  | .localFunction name args body => name.words ++ (wordsOf args ++ body.words)
  | .function name args body => name.words ++ (wordsOf args ++ body.words)
  | .branch test body orelse => (.keyword "if" :: (test.words ++ body.words)) ++ orelse.words
  | .giveBack values => values.words
  | .name id => [.name id]
  | .index value idx _ => value.words ++ idx.words
  | .invoke source func args => (source.words ++ func.words) ++ wordsOf args
  | .call func args => func.words ++ wordsOf args
  | .number n => [.numeral n]
  | .string s => [.text s.text]
  | .binary _ left right => left.words ++ right.words
  | .unary _ operand => operand.words
  | .anonymousFunction args body => wordsOf args ++ body.words
  | _ => []

/-- The words of nodes one after the other. -/
def wordsOf : List Node → List Token
  | [] => []
  | n :: rest => n.words ++ wordsOf rest

/-- The words of a body. -/
def Body.words : Body → List Token
  | .absent => []
  | .block items => wordsOf items
  | .bare items => wordsOf items

/-- The words of the clauses after the first one. -/
def Orelse.words : Orelse → List Token
  | .absent => []
  | .elseIf test body orelse => (.keyword "elseif" :: (test.words ++ body.words)) ++ orelse.words
  | .otherwise body => .keyword "else" :: body.words

/-- The words of the values of a declaration. -/
def Items.words : Items → List Token
  | .absent => []
  | .list items => wordsOf items

/-- The words of the values of a `return`. -/
def Values.words : Values → List Token
  | .absent => []
  | .list items => wordsOf items
  | .single item => item.words

end

/-- The syntax under a root is sound. -/
def Root.Sound : Root → Prop
  | .chunk b | .body b => b.Sound

/-- **The words of a syntax**, from left to right. -/
def Root.words : Root → List Token
  | .chunk b | .body b => b.words

/-! ## The tree of a syntax -/

theorem Node.words_of_isFiller {n : Node} (h : n.isFiller = true) : n.words = [] := by
  cases n with
  | semiColon => rfl
  | comment => rfl
  | _ => cases h

theorem kindOf_of_isName {n : Node} {v : Value} (hn : n.IsName) (h : expression n = .ok v) :
    kindOf v = .str "Identifier" := by
  obtain ⟨id, rfl⟩ := hn
  rw [expression] at h
  obtain rfl := Except.ok.inj h
  rfl

theorem not_refuse {α : Type} {cls : String} {place : Place} {a : α} : refuse cls place ≠ .ok a :=
  nofun

theorem converted_unmodelled {cls : String} {v : Value} (h : unmodelled cls = .ok v) :
    Converted [] [v] := by
  unfold unmodelled at h
  split at h
  · rename_i kind hkind
    obtain ⟨front, back, heq, -⟩ := List.lookup_eq_some_iff.1 hkind
    have hmem : (cls, kind) ∈ unmodelledStatements :=
      heq ▸ List.mem_append_right _ List.mem_cons_self
    obtain rfl := Except.ok.inj h
    exact .single (List.mem_append_right _ (List.mem_map_of_mem hmem))
  · exact absurd h not_refuse

theorem not_unmodelled {cls : String} {v : Value} (h : IsOperator cls) :
    unmodelled cls ≠ .ok v := by
  rw [unmodelled, h]
  exact not_refuse

mutual

theorem converted_block : ∀ (b : Body) {vs : List Value}, b.Sound → block b = .ok vs →
    Converted b.words vs
  | .absent, _, _, h => by
    rw [block] at h
    obtain rfl := Except.ok.inj h
    exact .nil
  | .block items, _, hs, h => converted_statements items hs (by rwa [block] at h)
  | .bare items, _, hs, h => converted_statements items hs (by rwa [block] at h)

theorem converted_statements : ∀ (ns : List Node) {vs : List Value}, SoundAll ns →
    statements ns = .ok vs → Converted (wordsOf ns) vs
  | [], _, _, h => by
    rw [statements] at h
    obtain rfl := Except.ok.inj h
    exact .nil
  | n :: rest, _, hs, h => by
    rw [statements] at h
    split at h
    · rename_i hfiller
      rw [wordsOf, n.words_of_isFiller hfiller]
      exact converted_statements rest hs.2 h
    · obtain ⟨v, hv, h⟩ := bind_eq_ok_iff.1 h
      obtain ⟨vs, hvs, h⟩ := bind_eq_ok_iff.1 h
      obtain rfl := Except.ok.inj h
      exact (converted_statement n hs.1 hv).cons (converted_statements rest hs.2 hvs)

theorem converted_statement : ∀ (n : Node) {v : Value}, n.Sound → statement n = .ok v →
    Converted n.words [v]
  | .localAssign targets values, _, hs, h => by
    rw [statement] at h
    obtain ⟨ts, hts, h⟩ := bind_eq_ok_iff.1 h
    obtain ⟨vs, hvs, h⟩ := bind_eq_ok_iff.1 h
    obtain rfl := Except.ok.inj h
    exact .assignment (Or.inl rfl) (converted_expressions targets hs.1 hts)
      (converted_initial values hs.2 hvs)
  | .assign targets values, _, hs, h => by
    rw [statement] at h
    obtain ⟨ts, hts, h⟩ := bind_eq_ok_iff.1 h
    obtain ⟨vs, hvs, h⟩ := bind_eq_ok_iff.1 h
    obtain rfl := Except.ok.inj h
    exact .assignment (Or.inr rfl) (converted_expressions targets hs.1 hts)
      (converted_expressions values hs.2 hvs)
  | .method source name args body, _, ⟨⟨hsource, hname, hid⟩, hargs, hbody⟩, h => by
    rw [statement] at h
    obtain ⟨s, hs, h⟩ := bind_eq_ok_iff.1 h
    obtain ⟨m, hm, h⟩ := bind_eq_ok_iff.1 h
    obtain ⟨as, has, h⟩ := bind_eq_ok_iff.1 h
    obtain ⟨b, hb, h⟩ := bind_eq_ok_iff.1 h
    obtain rfl := Except.ok.inj h
    have hmember := (converted_expression source hsource hs).member .colon
      (converted_expression name hname hm) (kindOf_of_isName hid hm)
    exact .function (Or.inr hmember.isRecord) hmember.toSpelled
      (converted_expressions args hargs has) (converted_block body hbody hb)
  | .localFunction name args body, _, ⟨hname, hargs, hbody⟩, h => by
    rw [statement] at h
    obtain ⟨m, hm, h⟩ := bind_eq_ok_iff.1 h
    obtain ⟨as, has, h⟩ := bind_eq_ok_iff.1 h
    obtain ⟨b, hb, h⟩ := bind_eq_ok_iff.1 h
    obtain rfl := Except.ok.inj h
    have hid := converted_expression name hname hm
    exact .function (Or.inr hid.isRecord) hid.toSpelled (converted_expressions args hargs has)
      (converted_block body hbody hb)
  | .function name args body, _, ⟨hname, hargs, hbody⟩, h => by
    rw [statement] at h
    obtain ⟨m, hm, h⟩ := bind_eq_ok_iff.1 h
    obtain ⟨as, has, h⟩ := bind_eq_ok_iff.1 h
    obtain ⟨b, hb, h⟩ := bind_eq_ok_iff.1 h
    obtain rfl := Except.ok.inj h
    have hid := converted_expression name hname hm
    exact .function (Or.inr hid.isRecord) hid.toSpelled (converted_expressions args hargs has)
      (converted_block body hbody hb)
  | .call func args, _, hs, h => by
    rw [statement] at h
    obtain ⟨f, hf, h⟩ := bind_eq_ok_iff.1 h
    obtain ⟨as, has, h⟩ := bind_eq_ok_iff.1 h
    obtain rfl := Except.ok.inj h
    exact .callStatement (.call (converted_expression func hs.1 hf)
      (converted_expressions args hs.2 has))
  | .invoke source func args, _, ⟨⟨hsource, hfunc, hid⟩, hargs⟩, h => by
    rw [statement] at h
    obtain ⟨s, hs, h⟩ := bind_eq_ok_iff.1 h
    obtain ⟨f, hf, h⟩ := bind_eq_ok_iff.1 h
    obtain ⟨as, has, h⟩ := bind_eq_ok_iff.1 h
    obtain rfl := Except.ok.inj h
    have hmember := (converted_expression source hsource hs).member .colon
      (converted_expression func hfunc hf) (kindOf_of_isName hid hf)
    exact .callStatement (.call hmember (converted_expressions args hargs has))
  | .branch test body orelse, _, ⟨⟨htest, hbody⟩, horelse⟩, h => by
    rw [statement] at h
    obtain ⟨t, ht, h⟩ := bind_eq_ok_iff.1 h
    obtain ⟨b, hb, h⟩ := bind_eq_ok_iff.1 h
    obtain ⟨cs, hcs, h⟩ := bind_eq_ok_iff.1 h
    obtain rfl := Except.ok.inj h
    have hfirst := Converted.clause (Or.inl ⟨rfl, rfl⟩) (converted_expression test htest ht)
      (converted_block body hbody hb)
    obtain ⟨hothers, hlater⟩ := converted_clauses orelse horelse hcs
    exact hfirst.branch rfl hothers hlater
  | .giveBack values, _, hs, h => by
    rw [statement] at h
    obtain ⟨vs, hvs, h⟩ := bind_eq_ok_iff.1 h
    obtain rfl := Except.ok.inj h
    exact .giveBack (converted_asList values hs hvs)
  | .other cls, _, _, h => converted_unmodelled (by simpa only [statement] using h)
  | .binary _ _ _, _, ⟨hcls, _⟩, h | .unary _ _, _, ⟨hcls, _⟩, h => by
    simp only [statement, Node.cls] at h
    exact absurd h (not_unmodelled hcls)
  | .semiColon, _, _, h | .comment, _, _, h | .name _, _, _, h | .index _ _ _, _, _, h
  | .number _, _, _, h | .string _, _, _, h | .trueExpr, _, _, h | .falseExpr, _, _, h
  | .nil, _, _, h | .varargs, _, _, h | .dots, _, _, h | .table, _, _, h
  | .anonymousFunction _ _, _, _, h => by
    simp only [statement, Node.cls] at h
    exact absurd h (not_unmodelled (by decide))

theorem converted_clauses : ∀ (o : Orelse) {vs : List Value}, o.Sound → clauses o = .ok vs →
    Converted o.words vs ∧ LaterClauses vs
  | .absent, _, _, h => by
    rw [clauses] at h
    obtain rfl := Except.ok.inj h
    exact ⟨.nil, .nil⟩
  | .elseIf test body orelse, _, ⟨⟨htest, hbody⟩, horelse⟩, h => by
    rw [clauses] at h
    obtain ⟨t, ht, h⟩ := bind_eq_ok_iff.1 h
    obtain ⟨b, hb, h⟩ := bind_eq_ok_iff.1 h
    obtain ⟨cs, hcs, h⟩ := bind_eq_ok_iff.1 h
    obtain rfl := Except.ok.inj h
    have hfirst := Converted.clause (Or.inr ⟨rfl, rfl⟩) (converted_expression test htest ht)
      (converted_block body hbody hb)
    obtain ⟨hothers, hlater⟩ := converted_clauses orelse horelse hcs
    exact ⟨hfirst.cons hothers, .elseIf rfl hlater⟩
  | .otherwise body, _, hs, h => by
    rw [clauses] at h
    obtain ⟨b, hb, h⟩ := bind_eq_ok_iff.1 h
    obtain rfl := Except.ok.inj h
    exact ⟨.elseClause (converted_block body hs hb), .otherwise rfl⟩

theorem converted_initial : ∀ (i : Items) {vs : List Value}, i.Sound → initial i = .ok vs →
    Converted i.words vs
  | .absent, _, _, h => by
    rw [initial] at h
    obtain rfl := Except.ok.inj h
    exact .nil
  | .list items, _, hs, h => converted_expressions items hs (by rwa [initial] at h)

theorem converted_asList : ∀ (a : Values) {vs : List Value}, a.Sound → asList a = .ok vs →
    Converted a.words vs
  | .absent, _, _, h => by
    rw [asList] at h
    obtain rfl := Except.ok.inj h
    exact .nil
  | .list items, _, hs, h => converted_expressions items hs (by rwa [asList] at h)
  | .single item, _, hs, h => by
    rw [asList] at h
    obtain ⟨v, hv, h⟩ := bind_eq_ok_iff.1 h
    obtain rfl := Except.ok.inj h
    exact converted_expression item hs hv

theorem converted_expressions : ∀ (ns : List Node) {vs : List Value}, SoundAll ns →
    expressions ns = .ok vs → Converted (wordsOf ns) vs
  | [], _, _, h => by
    rw [expressions] at h
    obtain rfl := Except.ok.inj h
    exact .nil
  | n :: rest, _, hs, h => by
    rw [expressions] at h
    obtain ⟨v, hv, h⟩ := bind_eq_ok_iff.1 h
    obtain ⟨vs, hvs, h⟩ := bind_eq_ok_iff.1 h
    obtain rfl := Except.ok.inj h
    exact (converted_expression n hs.1 hv).cons (converted_expressions rest hs.2 hvs)

theorem converted_expression : ∀ (n : Node) {v : Value}, n.Sound → expression n = .ok v →
    Converted n.words [v]
  | .name id, _, hs, h => by
    rw [expression] at h
    obtain rfl := Except.ok.inj h
    exact .identifier hs
  | .index value idx dotted, _, ⟨hvalue, hidx, hname⟩, h => by
    rw [expression] at h
    obtain ⟨b, hb, h⟩ := bind_eq_ok_iff.1 h
    obtain ⟨k, hk, h⟩ := bind_eq_ok_iff.1 h
    obtain rfl := Except.ok.inj h
    have hbase := converted_expression value hvalue hb
    have hkey := converted_expression idx hidx hk
    cases dotted with
    | true => exact hbase.member .dot hkey (kindOf_of_isName (hname rfl) hk)
    | false => exact hbase.index hkey
  | .invoke source func args, _, ⟨⟨hsource, hfunc, hid⟩, hargs⟩, h => by
    rw [expression] at h
    obtain ⟨s, hs, h⟩ := bind_eq_ok_iff.1 h
    obtain ⟨f, hf, h⟩ := bind_eq_ok_iff.1 h
    obtain ⟨as, has, h⟩ := bind_eq_ok_iff.1 h
    obtain rfl := Except.ok.inj h
    have hmember := (converted_expression source hsource hs).member .colon
      (converted_expression func hfunc hf) (kindOf_of_isName hid hf)
    exact .call hmember (converted_expressions args hargs has)
  | .call func args, _, hs, h => by
    rw [expression] at h
    obtain ⟨f, hf, h⟩ := bind_eq_ok_iff.1 h
    obtain ⟨as, has, h⟩ := bind_eq_ok_iff.1 h
    obtain rfl := Except.ok.inj h
    exact .call (converted_expression func hs.1 hf) (converted_expressions args hs.2 has)
  | .number n, _, hs, h => by
    rw [expression] at h
    obtain rfl := Except.ok.inj h
    exact .number hs
  | .string s, _, _, h => by
    rw [expression] at h
    obtain rfl := Except.ok.inj h
    exact .string s.text
  | .trueExpr, _, _, h | .falseExpr, _, _, h => by
    rw [expression] at h
    obtain rfl := Except.ok.inj h
    exact .boolean _
  | .nil, _, _, h | .varargs, _, _, h | .dots, _, _, h | .table, _, _, h => by
    rw [expression] at h
    obtain rfl := Except.ok.inj h
    exact .single (by decide)
  | .binary cls left right, _, ⟨_, hleft, hright⟩, h => by
    rw [expression] at h
    split at h
    · obtain ⟨l, hl, h⟩ := bind_eq_ok_iff.1 h
      obtain ⟨r, hr, h⟩ := bind_eq_ok_iff.1 h
      obtain rfl := Except.ok.inj h
      exact .binary (Or.inl rfl) (converted_expression left hleft hl)
        (converted_expression right hright hr)
    · obtain ⟨l, hl, h⟩ := bind_eq_ok_iff.1 h
      obtain ⟨r, hr, h⟩ := bind_eq_ok_iff.1 h
      obtain rfl := Except.ok.inj h
      exact .binary (Or.inr rfl) (converted_expression left hleft hl)
        (converted_expression right hright hr)
    · exact absurd h not_refuse
  | .unary cls operand, _, ⟨_, hs⟩, h => by
    rw [expression] at h
    split at h
    · obtain ⟨o, ho, h⟩ := bind_eq_ok_iff.1 h
      obtain rfl := Except.ok.inj h
      exact .unary (converted_expression operand hs ho)
    · exact absurd h not_refuse
  | .anonymousFunction args body, _, hs, h => by
    rw [expression] at h
    obtain ⟨as, has, h⟩ := bind_eq_ok_iff.1 h
    obtain ⟨b, hb, h⟩ := bind_eq_ok_iff.1 h
    obtain rfl := Except.ok.inj h
    exact .function (Or.inl rfl) .null (converted_expressions args hs.1 has)
      (converted_block body hs.2 hb)
  | .semiColon, _, _, h | .comment, _, _, h | .localAssign _ _, _, _, h | .assign _ _, _, _, h
  | .method _ _ _ _, _, _, h | .localFunction _ _ _, _, _, h | .function _ _ _, _, _, h
  | .branch _ _ _, _, _, h | .giveBack _, _, _, h | .other _, _, _, h => by
    simp only [expression] at h
    exact absurd h not_refuse

end

/-- **The tree of a sound syntax** has the words of the syntax, and all its nodes conform. -/
theorem converted_convert {root : Root} {tree : Value} (hs : root.Sound)
    (h : convert root = .ok tree) :
    Converted root.words [tree] ∧ kindOf tree = .str "Chunk" := by
  cases root with
  | chunk body | body body =>
    obtain ⟨b, hb, h⟩ := bind_eq_ok_iff.1 h
    obtain rfl := Except.ok.inj h
    exact ⟨.chunk (converted_block body hs hb), rfl⟩

end DefUse.Lua
