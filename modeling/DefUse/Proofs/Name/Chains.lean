import DefUse.Proofs.Lua.Source
import DefUse.Proofs.Name.Renaming
import DefUse.Proofs.Name.Skeleton
import DefUse.Proofs.Value.Proper

/-!
# Proofs/Name/Chains — a joined name tells the chain it was joined from

Definitions and uses are tracked under flat texts, so what keeps two variables apart is that the
text of a chain can be taken apart again.  A **chain** is a first part and more parts, each behind
its separator; `Spells v c` says that a value is written as the chain `c`, its member accesses
nested through their bases alone.  The parts have no separators of their own, so cutting the joined
name at its separators gives the chain back, and no two chains have the same name.

The tree of a source text has no other names than those of chains (`spells_of_source`): its member
accesses have identifiers on their right, and a name in a source text has no separator in it.
-/

namespace DefUse

/-! ## Chains -/

/-- **A chain**: its first part, and each of the others behind its separator. -/
structure Chain where
  first : Part
  links : List (Separator × Part)
  deriving DecidableEq

namespace Chain

variable {c e : Chain} {sep : Separator} {p : Part}

/-- A chain with one more part at its end. -/
def add (c : Chain) (sep : Separator) (p : Part) : Chain := ⟨c.first, c.links ++ [(sep, p)]⟩

/-- The parts of a chain, by their characters. -/
def parts (c : Chain) : Parts :=
  ⟨c.first.1.toList, c.links.map fun link => (link.1, link.2.1.toList)⟩

/-- **The joined name of a chain.** -/
def text (c : Chain) : String := String.ofList c.parts.glue

theorem text_add : (c.add sep p).text = c.text ++ sep.text ++ p.1 := by
  refine String.toList_inj.1 ?_
  simp [text, parts, add, Parts.glue, Separator.text]

/-- **Cutting the name of a chain gives the chain.** -/
theorem cut_text (c : Chain) : Parts.cut c.text.toList = c.parts := by
  rw [text, String.toList_ofList]
  refine Parts.cut_glue ?_
  rw [Parts.all, List.forall_mem_cons]
  refine ⟨c.first.2.2, fun part hpart => ?_⟩
  simp only [parts, List.map_map, List.mem_map] at hpart
  obtain ⟨link, -, rfl⟩ := hpart
  exact link.2.2.2

theorem parts_injective : Function.Injective parts := by
  intro c e h
  obtain ⟨hfirst, hlinks⟩ := Parts.mk.inj h
  have hpart : Function.Injective fun p : Part => p.1.toList :=
    fun p q hpq => Subtype.ext (String.toList_inj.1 hpq)
  have hlink : Function.Injective fun link : Separator × Part => (link.1, link.2.1.toList) :=
    fun link link' he => Prod.ext (Prod.mk.inj he).1 (hpart (Prod.mk.inj he).2)
  calc c = ⟨c.first, c.links⟩ := rfl
    _ = ⟨e.first, e.links⟩ := by rw [hpart hfirst, List.map_injective_iff.2 hlink hlinks]

/-- **No two chains have the same name.** -/
theorem text_injective : Function.Injective text := by
  intro c e h
  refine parts_injective ?_
  rw [← cut_text, h, cut_text]

end Chain

/-! ## Values that are written as chains -/

/-- **A value is written as a chain**: an identifier, or a member access whose base is written as a
chain and whose identifier is one. -/
inductive Spells : Value → Chain → Prop
  | identifier {v : Value} {p : Part} (hk : kindOf v = .str "Identifier")
      (hn : v.field "name" = .str p.1) : Spells v ⟨p, []⟩
  | member {v : Value} {c : Chain} {sep : Separator} {p : Part}
      (hk : kindOf v = .str "MemberExpression") (hs : v.field "indexer" = .str sep.text)
      (hbase : Spells (v.field "base") c)
      (hleaf : kindOf (v.field "identifier") = .str "Identifier")
      (hn : (v.field "identifier").field "name" = .str p.1) : Spells v (c.add sep p)

variable {v w : Value} {c e : Chain} {n : String}

theorem joinedName_of_part {p : Part} (hk : kindOf v = .str "Identifier")
    (hn : v.field "name" = .str p.1) : joinedName v = .ok (some p.1) := by
  rw [joinedName_of_identifier hk, identifierName, hn]
  simp [p.2.1, Except.map]

/-- **A value that is written as a chain spells its name.** -/
theorem Spells.joinedName (h : Spells v c) : joinedName v = .ok (some c.text) := by
  induction h with
  | @identifier v p hk hn =>
    have htext : Chain.text ⟨p, []⟩ = p.1 := by simp [Chain.text, Chain.parts, Parts.glue]
    rw [joinedName_of_part hk hn, htext]
  | @member v c sep p hk hs _ hleaf hn ih =>
    rw [joinedName_of_member hk, Separator.ofValue?_eq_some_iff.2 hs, ih,
      joinedName_of_part hleaf hn, Chain.text_add]
    rfl

/-! ## Names in a source text -/

namespace Lua

/-- A character of a name is no separator. -/
theorem ne_char_of_isNamePart {x : Char} (h : isNamePart x = true) (sep : Separator) :
    sep.char ≠ x := by
  rintro rfl
  revert h
  cases sep <;> decide

/-- **A name in a source text has no separator in it.** -/
theorem plain_of_scanToken? {cs rest : List Char} {id : String}
    (h : scanToken? cs = some (.name id, rest)) : Plain id := by
  obtain ⟨-, -, -, -, hword⟩ := scanWord_of_scanToken? h
  obtain ⟨htoken, -⟩ := Prod.mk.inj hword
  split at htoken
  · cases htoken
  · obtain rfl := Token.name.inj htoken
    intro sep hsep
    rw [String.toList_ofList] at hsep
    exact ne_char_of_isNamePart (List.all_eq_true.1 List.all_takeWhile _ hsep) sep rfl

end Lua

namespace Value

open Lua (Token)

variable {v : Value} {key : String}

theorem mem_of_lookup {w : Value} {fields : List (String × Value)}
    (h : lookup key fields = some w) : w ∈ fields.map (·.2) := by
  induction fields with
  | nil => cases h
  | cons f rest ih =>
    rw [lookup] at h
    split at h
    · obtain rfl := Option.some.inj h
      exact List.mem_cons_self
    · exact List.mem_cons_of_mem _ (ih h)

/-- The words of a field are words of the record. -/
theorem words_field_subset (v : Value) (key : String) : (v.field key).words ⊆ v.words := by
  intro t ht
  rw [field] at ht
  cases hw : v.get? key with
  | none => simp [hw, words] at ht
  | some w =>
    rw [hw] at ht
    cases v with
    | record fields =>
      rw [words, wordsOfFields_eq]
      exact List.mem_append_right _ (List.mem_flatMap.2 ⟨w, mem_of_lookup hw, ht⟩)
    | _ => cases hw

/-- The name of an identifier is one of its words. -/
theorem name_mem_words {n : String} (hk : kindOf v = .str "Identifier")
    (hn : v.field "name" = .str n) : Token.name n ∈ v.words := by
  have hown : v.ownWords = [.name n] := by simp only [ownWords, hk, hn]
  cases v with
  | record fields =>
    rw [words, hown]
    exact List.mem_cons_self
  | _ => cases hk

/-- What holds of every value whose nodes have a property and whose words have one too holds of
every node of such a value. -/
theorem AllNodes.imp_words {P Q : Value → Prop} {T : Token → Prop}
    (step : ∀ w, w.AllNodes P → (∀ t ∈ w.words, T t) → Q w) (h : v.AllNodes P)
    (hwords : ∀ t ∈ v.words, T t) : v.AllNodes Q := by
  induction v using partsInduction with
  | null | bool | int | float | str => trivial
  | list items ih =>
    refine allNodes_list.2 fun w hw => ih w hw (allNodes_list.1 h w hw) fun t ht => hwords t ?_
    rw [words, wordsOfItems_eq]
    exact List.mem_flatMap.2 ⟨w, hw, ht⟩
  | record fields ih =>
    refine allNodes_record.2 ⟨step _ h hwords, allNodesOfFields_iff.2 fun w hw => ?_⟩
    obtain ⟨f, hf, rfl⟩ := List.mem_map.1 hw
    refine ih f hf (allNodesOfFields_iff.1 (allNodes_record.1 h).2 _ hw) fun t ht => hwords t ?_
    rw [words, wordsOfFields_eq]
    exact List.mem_append_right _ (List.mem_flatMap.2 ⟨_, hw, ht⟩)

end Value

/-- Words whose names have no separators. -/
abbrev PlainWords (words : List Lua.Token) : Prop := ∀ t ∈ words, ∀ id, t = .name id → Plain id

/-- An identifier that conforms is named by a part, if its words have no separators. -/
theorem exists_part (h : v.AllNodes Conforms) (hwords : PlainWords v.words)
    (hk : kindOf v = .str "Identifier") : ∃ p : Part, v.field "name" = .str p.1 := by
  obtain ⟨k, hkind, hc⟩ := h.of_isRecord (isRecord_of_kindOf_eq hk)
  obtain ⟨n, hn, hne⟩ := hc.name (Value.str.inj (hkind.symm.trans hk))
  exact ⟨⟨n, hne, hwords _ (Value.name_mem_words hk hn) n rfl⟩, hn⟩

/-- **A name chain that conforms is written as a chain**, if its words have no separators: what
stands to the right in its member accesses is an identifier. -/
theorem exists_spells (hv : NameChain v) (h : v.AllNodes Conforms) (hwords : PlainWords v.words) :
    ∃ c, Spells v c := by
  induction hv with
  | identifier hk =>
    obtain ⟨p, hp⟩ := exists_part h hwords hk
    exact ⟨_, .identifier hk hp⟩
  | @member v hk _ _ ih =>
    have hfield : ∀ key, PlainWords (v.field key).words :=
      fun key t ht => hwords t (v.words_field_subset key ht)
    obtain ⟨k, hkind, hc⟩ := h.of_isRecord (isRecord_of_kindOf_eq hk)
    obtain rfl : k = "MemberExpression" := Value.str.inj (hkind.symm.trans hk)
    have hleaf : kindOf (v.field "identifier") = .str "Identifier" := hc.promise.2
    obtain ⟨c, hc'⟩ := ih (h.field "base") (hfield "base")
    obtain ⟨p, hp⟩ := exists_part (h.field "identifier") (hfield "identifier") hleaf
    obtain ⟨sep, hs⟩ : ∃ sep : Separator, v.field "indexer" = .str sep.text :=
      (hc.member rfl).elim (fun hs => ⟨.dot, hs⟩) fun hs => ⟨.colon, hs⟩
    exact ⟨_, .member hk hs hc' hleaf hp⟩

/-- **What is taken of the names of a parser**: its syntax is sound, and no name in it has a
separator. -/
structure PlainParser [Libraries] : Prop where
  sound : Lua.SoundParser
  plain : ∀ {source : String} {root : Lua.Root},
    Libraries.parseLua source = .ok root → PlainWords root.words

/-- The names of the parser of a run are plain. -/
theorem plainParser : PlainParser := by
  refine ⟨Lua.soundParser, fun {source root} h => ?_⟩
  obtain ⟨tokens, htokens, hsublist⟩ := (Lua.sound_of_parse? (Lua.parse_eq_ok_iff.1 h)).2
  have hplain : PlainWords tokens :=
    Lua.forall_of_scanAll? (fun htoken id hid => Lua.plain_of_scanToken? (hid ▸ htoken)) htokens
  exact fun t ht => hplain t (hsublist.subset ht)

/-- **The names in the tree of a source text are those of chains.** -/
theorem spells_of_source [Libraries] (hparser : PlainParser) {source : String} {tree : Value}
    (h : Lua.tree source = .ok tree) :
    tree.AllNodes fun v => ∀ n, joinedName v = .ok (some n) → ∃ c, Spells v c := by
  obtain ⟨root, hroot, hconverted, -⟩ := Lua.converted_of_tree hparser.sound h
  have hwords : tree.words = root.words := by simpa using hconverted.words
  refine (hconverted.nodes tree List.mem_cons_self).imp_words (fun v hv hvwords n hn => ?_)
    fun t ht => hparser.plain hroot t (hwords ▸ ht)
  have hr : v.isRecord = true := isRecord_of_joinedName_ne (by simp [hn])
  obtain ⟨o, ho, hchain⟩ := (shaped_of_conforms hv hr).joinedName
  obtain rfl : some n = o := Except.ok.inj (hn.symm.trans ho)
  exact exists_spells (hchain.1 rfl) hv hvwords

/-! ## Definitions of different chains -/

namespace Scopes

variable {s t : Scopes} {m : String} {k j : Nat} {d : Int}

/-- The owner of a name is not changed by the definition of another one. -/
theorem owner?_addDefined_of_ne (h : m ≠ n) : (s.addDefined k n).owner? m j = s.owner? m j :=
  owner?_congr fun i => by
    rw [definedAt_addDefined]
    split <;> simp [h]

theorem find_of_define_ne {isLocal : Bool} (hdefine : s.define n d isLocal = .ok (k, t))
    (h : m ≠ n) (d' : Int) : t.find m d' = s.find m d' := by
  obtain ⟨-, rfl⟩ := define_eq_ok_iff.1 hdefine
  have hlevel : (s.addDefined k n).level d' = s.level d' := by
    simp [level, depth]
  rw [find, find, hlevel]
  cases s.level d' with
  | error f => rfl
  | ok j => exact congrArg Except.ok (owner?_addDefined_of_ne h)

end Scopes

/-- **A joined name identifies its chain.**  A value that is written as a chain spells the name of
the chain, and cutting that name at its separators gives the chain back, so that two such values
spell the same name exactly if their parts and separators are the same, one by one.  Hence no
definition of the one is ever found in the place of the other.  In the tree of a source text nothing
but what is written as a chain spells a name, whatever parser it is read by, as long as the names of
the parser are plain. -/
theorem joinedName_eq_iff (hv : Spells v c) (hw : Spells w e) :
    joinedName v = .ok (some c.text) ∧ Parts.cut c.text.toList = c.parts ∧
    (joinedName v = joinedName w ↔ c = e) ∧
    (c ≠ e → ∀ (s t : Scopes) (d : Int) (isLocal : Bool) (k : Nat),
      s.define c.text d isLocal = .ok (k, t) → ∀ d', t.find e.text d' = s.find e.text d') ∧
    ∀ [Libraries], PlainParser → ∀ source tree, Lua.tree source = .ok tree →
      tree.AllNodes fun u => ∀ n, joinedName u = .ok (some n) → ∃ c, Spells u c := by
  refine ⟨hv.joinedName, c.cut_text, ?_, fun hne s t d isLocal k hdefine d' => ?_,
    fun hparser source tree => spells_of_source hparser⟩
  · rw [hv.joinedName, hw.joinedName, Except.ok.injEq, Option.some.injEq]
    exact Chain.text_injective.eq_iff
  · exact Scopes.find_of_define_ne hdefine (Chain.text_injective.ne hne.symm) d'

/-- The chains `a.b:c` and `a:b.c` have the same parts and are told apart by their separators. -/
theorem joinedName_eq_iff_separators :
    let name (n : String) : Value := .record [("type", .str "Identifier"), ("name", .str n)]
    let access (sep : Separator) (base : Value) (n : String) : Value := .record
      [("type", .str "MemberExpression"), ("indexer", .str sep.text), ("base", base),
       ("identifier", name n)]
    let v := access .colon (access .dot (name "a") "b") "c"
    let w := access .dot (access .colon (name "a") "b") "c"
    ∃ c e : Chain, Spells v c ∧ Spells w e ∧ c.text = "a.b:c" ∧ c ≠ e ∧
      joinedName v = .ok (some c.text) ∧ Parts.cut c.text.toList = c.parts ∧
      joinedName v ≠ joinedName w ∧
      ∀ source tree, Lua.tree source = .ok tree →
        tree.AllNodes fun u => ∀ n, joinedName u = .ok (some n) → ∃ c, Spells u c := by
  intro name access v w
  let a : Part := ⟨"a", by decide, by decide⟩
  let b : Part := ⟨"b", by decide, by decide⟩
  let c : Part := ⟨"c", by decide, by decide⟩
  have hv : Spells v ⟨a, [(.dot, b), (.colon, c)]⟩ :=
    .member (c := ⟨a, [(.dot, b)]⟩) rfl rfl (.member (c := ⟨a, []⟩) rfl rfl (.identifier rfl rfl)
      rfl rfl) rfl rfl
  have hw : Spells w ⟨a, [(.colon, b), (.dot, c)]⟩ :=
    .member (c := ⟨a, [(.colon, b)]⟩) rfl rfl (.member (c := ⟨a, []⟩) rfl rfl (.identifier rfl rfl)
      rfl rfl) rfl rfl
  have hne : (⟨a, [(.dot, b), (.colon, c)]⟩ : Chain) ≠ ⟨a, [(.colon, b), (.dot, c)]⟩ := by decide
  obtain ⟨hname, hcut, hiff, -, hsource⟩ := joinedName_eq_iff hv hw
  exact ⟨_, _, hv, hw, by decide, hne, hname, hcut, fun h => hne (hiff.1 h), hsource plainParser⟩

end DefUse
