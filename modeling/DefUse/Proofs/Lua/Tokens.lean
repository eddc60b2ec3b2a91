import Mathlib.Tactic.SplitIfs
import DefUse.Proofs.Lua.Parse

/-!
# Proofs/Lua/Tokens — the tokens of a source text are sound

A name has the character it starts with, and a double is read in its normal form.  So the grammar
reads sound syntax off the tokens of a text, and the words of the syntax are tokens of the text in
their order (`sound_of_parse?`).
-/

namespace DefUse.Lua

variable {cs rest : List Char} {n : Numeral} {t : Token}

/-! ## Names -/

/-- A name has the character that it starts with. -/
theorem ne_empty_of_scanWord {c : Char} {cs rest : List Char} {id : String}
    (hc : isNameStart c = true) (h : scanWord (c :: cs) = (.name id, rest)) : id ≠ "" := by
  have hpart : isNamePart c = true := by rw [isNamePart, hc, Bool.true_or]
  have hword : (c :: cs).takeWhile isNamePart = c :: cs.takeWhile isNamePart :=
    List.takeWhile_cons_of_pos hpart
  obtain ⟨htoken, -⟩ := Prod.mk.inj h
  rw [hword] at htoken
  split at htoken
  · cases htoken
  · rw [← Token.name.inj htoken]
    intro hempty
    simpa using congrArg String.toList hempty

/-- Only a word is a name: a number, a text or a symbol is none. -/
theorem scanWord_of_scanToken? {cs rest : List Char} {id : String}
    (h : scanToken? cs = some (.name id, rest)) :
    ∃ c cs', cs = c :: cs' ∧ isNameStart c = true ∧ scanWord cs = (.name id, rest) := by
  unfold scanToken? at h
  split at h
  · cases h
  · split at h
    · exact ⟨_, _, rfl, ‹_›, Option.some.inj h⟩
    · repeat' split at h
      all_goals
        obtain ⟨x, -, hx⟩ := Option.map_eq_some_iff.1 h
        cases hx

/-- **A name is never empty**: it has the character it starts with. -/
theorem ne_empty_of_scanToken? {cs rest : List Char} {id : String}
    (h : scanToken? cs = some (.name id, rest)) : id ≠ "" := by
  obtain ⟨c, cs', rfl, hc, hword⟩ := scanWord_of_scanToken? h
  exact ne_empty_of_scanWord hc hword

/-! ## Numbers -/

/-- Digits give a number in normal form, however many zeros come first. -/
theorem canonical_wholeValue (digits : List Char) : (wholeValue digits).Canonical := by
  unfold wholeValue
  dsimp only
  split
  · exact Double.canonical_ofDecimal _ _ _
  · trivial

/-- So do a point and an exponent. -/
theorem canonical_scanDecimal (cs : List Char) : (scanDecimal cs).1.Canonical := by
  unfold scanDecimal
  dsimp only
  split
  · exact Double.canonical_ofDecimal _ _ _
  · split
    · exact Double.canonical_ofDecimal _ _ _
    · exact canonical_wholeValue _

theorem canonical_of_scanDecimal (h : scanDecimal cs = (n, rest)) : n.Canonical := by
  have hn := canonical_scanDecimal cs
  rwa [h] at hn

/-- **A number is scanned in normal form**, whatever its base. -/
theorem canonical_of_scanNumber? (h : scanNumber? cs = some (n, rest)) : n.Canonical := by
  unfold scanNumber? at h
  split at h
  · split at h
    · unfold scanHex? at h
      dsimp only at h
      split_ifs at h
      cases h
      trivial
    · exact canonical_of_scanDecimal (Option.some.inj h)
  · exact canonical_of_scanDecimal (Option.some.inj h)

/-- **A number in a source text is read in its normal form.** -/
theorem canonical_of_scanToken? (h : scanToken? cs = some (.numeral n, rest)) : n.Canonical := by
  unfold scanToken? at h
  split at h
  · cases h
  · split_ifs at h
    · obtain ⟨hword, -⟩ := Prod.mk.inj (Option.some.inj h)
      split at hword <;> cases hword
    · obtain ⟨⟨m, _⟩, hm, hx⟩ := Option.map_eq_some_iff.1 h
      obtain rfl := Token.numeral.inj (Prod.mk.inj hx).1
      exact canonical_of_scanNumber? hm
    · obtain ⟨_, -, hx⟩ := Option.map_eq_some_iff.1 h
      cases hx
    · split at h
      all_goals
        obtain ⟨_, -, hx⟩ := Option.map_eq_some_iff.1 h
        cases hx

/-! ## Texts -/

/-- **A token that is scanned is sound**: names are not empty and numbers are in normal form. -/
theorem sound_of_scanToken? (h : scanToken? cs = some (t, rest)) : t.Sound := by
  cases t with
  | name id => exact ne_empty_of_scanToken? h
  | numeral n => exact canonical_of_scanToken? h
  | _ => trivial

/-- What holds of every token that can be read holds of all tokens of a text. -/
theorem forall_of_scanAll? {P : Token → Prop}
    (hP : ∀ {cs t rest}, scanToken? cs = some (t, rest) → P t) {fuel : Nat} {cs : List Char}
    {ts : List Token} (h : scanAll? fuel cs = some ts) : ∀ t ∈ ts, P t := by
  fun_induction scanAll? fuel cs generalizing ts with
  | case1 =>
    obtain rfl := Option.some.inj h
    exact List.forall_mem_nil _
  | case2 => cases h
  | case3 fuel c rest _ ih => exact ih h
  | case4 fuel comment _ ih =>
    obtain ⟨rest, -, hrest⟩ := Option.bind_eq_some_iff.1 h
    exact ih rest hrest
  | case5 fuel c rest _ _ ih =>
    obtain ⟨⟨t, rest'⟩, htoken, hrest⟩ := Option.bind_eq_some_iff.1 h
    obtain ⟨us, hus, hts⟩ := Option.bind_eq_some_iff.1 hrest
    obtain rfl := Option.some.inj hts
    exact List.forall_mem_cons.2 ⟨hP htoken, ih rest' hus⟩

/-- **The syntax of a source text is sound**, and its words are words of the text, in the order of
the text. -/
theorem sound_of_parse? {source : String} {root : Root} (h : parse? source = some root) :
    root.Sound ∧ ∃ tokens, Token.scan? source = some tokens ∧ root.words.Sublist tokens := by
  obtain ⟨tokens, htokens, hparse⟩ := Option.bind_eq_some_iff.1 h
  obtain ⟨⟨body, rest⟩, hblock, hend⟩ := Option.bind_eq_some_iff.1 hparse
  obtain ⟨read, ws, rfl, hws, hbody⟩ := (grammatical _).block tokens
    (forall_of_scanAll? sound_of_scanToken? htokens) body rest hblock
  dsimp only at hend
  split at hend
  · obtain rfl := Option.some.inj hend
    refine ⟨hbody.sound, _, htokens, ?_⟩
    have hwords : (Root.chunk (.block body)).words = ws := hbody.words
    rw [hwords]
    exact hws.trans (List.sublist_append_left _ _)
  · cases hend

end DefUse.Lua
