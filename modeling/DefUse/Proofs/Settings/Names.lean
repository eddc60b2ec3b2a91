import Mathlib.Data.List.Basic
import DefUse.Proofs.Attempt
import DefUse.Settings.Load

/-!
# Proofs/Settings/Names — the names that a file lists

A file of names is a plain text or a JSON document, as its suffix says.  `Settings.Lists` says which
names it lists without saying how they are found: those of a plain text are its longest runs without
blanks (`Splits`), and a document is a list of texts or a record that has one under `identifiers`.
Reading the file gives these names and is refused if there are none (`readNames_eq_ok_iff`).
-/

namespace DefUse

/-! ## Words -/

/-- **A text splits into words**: there are only blanks around them, and a blank comes after each
that is not at the end. -/
inductive Splits : List Char → List String → Prop
  | blanks {cs : List Char} (blank : ∀ c ∈ cs, isBlank c = true) : Splits cs []
  | word {before word rest : List Char} {ws : List String}
      (blank : ∀ c ∈ before, isBlank c = true) (nonempty : word ≠ [])
      (solid : ∀ c ∈ word, isBlank c = false) (ends : ∀ c ∈ rest.head?, isBlank c = true)
      (more : Splits rest ws) : Splits (before ++ (word ++ rest)) (String.ofList word :: ws)

/-- A blank in front changes no word. -/
theorem Splits.cons_blank {c : Char} {cs : List Char} {ws : List String} (h : Splits cs ws)
    (hc : isBlank c = true) : Splits (c :: cs) ws := by
  cases h with
  | blanks blank => exact .blanks (List.forall_mem_cons.2 ⟨hc, blank⟩)
  | word blank nonempty solid ends more =>
    rw [← List.cons_append]
    exact .word (List.forall_mem_cons.2 ⟨hc, blank⟩) nonempty solid ends more

/-- Blanks between words are skipped. -/
theorem wordsFrom_blanks {before : List Char} (h : ∀ c ∈ before, isBlank c = true)
    (cs : List Char) : wordsFrom [] (before ++ cs) = wordsFrom [] cs := by
  induction before with
  | nil => rfl
  | cons c before ih =>
    obtain ⟨hc, hrest⟩ := List.forall_mem_cons.1 h
    rw [List.cons_append, wordsFrom, if_pos hc]
    exact ih hrest

/-- Characters that are no blanks are gathered. -/
theorem wordsFrom_solid {word : List Char} (h : ∀ c ∈ word, isBlank c = false)
    (started cs : List Char) :
    wordsFrom started (word ++ cs) = wordsFrom (word.reverse ++ started) cs := by
  induction word generalizing started with
  | nil => rfl
  | cons c word ih =>
    obtain ⟨hc, hrest⟩ := List.forall_mem_cons.1 h
    rw [List.cons_append, wordsFrom, if_neg (Bool.eq_false_iff.1 hc), ih hrest,
      List.reverse_cons, List.append_assoc]
    rfl

/-- A word is complete where a blank or nothing follows. -/
theorem wordsFrom_ends {started cs : List Char} (hstarted : started ≠ [])
    (h : ∀ c ∈ cs.head?, isBlank c = true) :
    wordsFrom started cs = String.ofList started.reverse :: wordsFrom [] cs := by
  have hsome : ¬ started.isEmpty = true := fun hempty => hstarted (List.isEmpty_iff.1 hempty)
  cases cs with
  | nil => rw [wordsFrom, if_neg hsome]; rfl
  | cons c cs =>
    have hc : isBlank c = true := h c rfl
    rw [wordsFrom, wordsFrom, if_pos hc, if_pos hc, if_neg hsome]
    rfl

/-- What is gathered are the words.  The induction is on what is left of the text, with any word
under way. -/
theorem splits_wordsFrom (started cs : List Char) (h : ∀ c ∈ started, isBlank c = false) :
    Splits (started.reverse ++ cs) (wordsFrom started cs) := by
  induction cs generalizing started with
  | nil =>
    by_cases hstarted : started = []
    · subst hstarted
      exact .blanks (List.forall_mem_nil _)
    · rw [wordsFrom_ends hstarted (by simp)]
      exact .word (List.forall_mem_nil _) (List.reverse_ne_nil_iff.2 hstarted)
        (fun c hc => h c (List.mem_reverse.1 hc)) (by simp) (.blanks (List.forall_mem_nil _))
  | cons c cs ih =>
    by_cases hc : isBlank c = true
    · have hrest : Splits (c :: cs) (wordsFrom [] (c :: cs)) := by
        rw [wordsFrom, if_pos hc]
        exact (ih [] (List.forall_mem_nil _)).cons_blank hc
      by_cases hstarted : started = []
      · subst hstarted
        exact hrest
      · have hends : ∀ b ∈ (c :: cs).head?, isBlank b = true := by
          rintro b ⟨⟩
          exact hc
        rw [wordsFrom_ends hstarted hends]
        exact .word (List.forall_mem_nil _) (List.reverse_ne_nil_iff.2 hstarted)
          (fun c hc => h c (List.mem_reverse.1 hc)) hends hrest
    · rw [wordsFrom, if_neg hc, List.append_cons, ← List.reverse_cons]
      exact ih (c :: started) (List.forall_mem_cons.2 ⟨Bool.eq_false_iff.2 hc, h⟩)

/-- Words that a text splits into are gathered. -/
theorem wordsFrom_of_splits {cs : List Char} {ws : List String} (h : Splits cs ws) :
    wordsFrom [] cs = ws := by
  induction h with
  | @blanks cs blank =>
    have hall := wordsFrom_blanks blank []
    rw [List.append_nil] at hall
    exact hall
  | @word before word rest ws blank nonempty solid ends more ih =>
    rw [wordsFrom_blanks blank, wordsFrom_solid solid, List.append_nil,
      wordsFrom_ends (List.reverse_ne_nil_iff.2 nonempty) ends, List.reverse_reverse, ih]

/-- **The words of a text are those that it splits into.** -/
theorem words_eq_iff {text : String} {ws : List String} :
    words text = ws ↔ Splits text.toList ws :=
  ⟨fun h => h ▸ splits_wordsFrom [] text.toList (List.forall_mem_nil _), wordsFrom_of_splits⟩

namespace Settings

/-! ## Files of names -/

/-- **The names that a document holds**: it is a list of texts, or a record that has one under
`identifiers` or nothing there. -/
inductive Holds : Value → List String → Prop
  | list (names : List String) : Holds (.list (names.map .str)) names
  | identifiers {fields : List (String × Value)} {names : List String}
      (under : Value.lookup "identifiers" fields = some (.list (names.map .str))) :
      Holds (.record fields) names
  | nothing {fields : List (String × Value)} (under : Value.lookup "identifiers" fields = none) :
      Holds (.record fields) []

/-- **The names that a text lists**, by the suffix of its file: JSON if that says so, words
otherwise. -/
inductive Lists (suffix text : String) (names : List String) : Prop
  | words (plain : suffix ≠ ".json") (split : Splits text.toList names)
  | document {v : Value} (json : suffix = ".json") (reads : Json.read text = .ok v)
      (holds : Holds v names)

/-- **The names that a file lists**: its bytes are those of a text, and with all line ends alike the
text lists them. -/
def FileLists (d : Disk) (p : Path) (names : List String) : Prop :=
  ∃ bytes text, d.read p = .ok bytes ∧ Utf8.decode bytes = .ok text ∧
    Lists p.suffix (String.ofList (Utf8.unifyLineEnds text.toList)) names

theorem text?_eq_some_iff {v : Value} {s : String} : v.text? = some s ↔ v = .str s := by
  cases v <;> simp [Value.text?]

/-- A list gives texts if it has nothing else. -/
theorem textsOf?_eq_some_iff {items : List Value} {names : List String} :
    textsOf? items = some names ↔ names.map .str = items := by
  induction items generalizing names with
  | nil =>
    rw [List.map_eq_nil_iff, eq_comm (b := ([] : List String))]
    exact Option.some_inj
  | cons v items ih =>
    rw [textsOf?, List.mapM_cons, Option.bind_eq_bind, Option.bind_eq_some_iff,
      List.map_eq_cons_iff]
    constructor
    · rintro ⟨n, hn, hrest⟩
      obtain ⟨others, hothers, hnames⟩ := Option.bind_eq_some_iff.1 hrest
      exact ⟨n, others, (Option.some.inj hnames).symm, (text?_eq_some_iff.1 hn).symm,
        ih.1 hothers⟩
    · rintro ⟨n, others, rfl, hn, hothers⟩
      exact ⟨n, text?_eq_some_iff.2 hn.symm,
        Option.bind_eq_some_iff.2 ⟨others, ih.2 hothers, rfl⟩⟩

/-- **The names of a document are those that it holds.** -/
theorem namesOf?_eq_some_iff {v : Value} {names : List String} :
    namesOf? v = some names ↔ Holds v names := by
  constructor
  · intro h
    cases v with
    | list items => exact textsOf?_eq_some_iff.1 h ▸ .list names
    | record fields =>
      rw [namesOf?] at h
      cases hunder : Value.lookup "identifiers" fields with
      | none =>
        rw [hunder] at h
        obtain rfl : [] = names := Option.some.inj h
        exact .nothing hunder
      | some under =>
        rw [hunder] at h
        cases under with
        | list items =>
          rw [← textsOf?_eq_some_iff.1 h] at hunder
          exact .identifiers hunder
        | _ => cases h
    | _ => cases h
  · intro h
    cases h with
    | list names => exact textsOf?_eq_some_iff.2 rfl
    | identifiers under =>
      rw [namesOf?, under]
      exact textsOf?_eq_some_iff.2 rfl
    | nothing under =>
      rw [namesOf?, under]
      rfl

/-- What a text comes to as a list of names. -/
theorem lists_iff {suffix text : String} {names : List String} :
    Lists suffix text names ↔
      if suffix ≠ ".json" then words text = names
      else ∃ v, Json.read text = .ok v ∧ namesOf? v = some names := by
  by_cases hsuffix : suffix = ".json"
  · rw [if_neg (not_not_intro hsuffix)]
    constructor
    · intro h
      cases h with
      | words plain _ => exact absurd hsuffix plain
      | document _ reads holds => exact ⟨_, reads, namesOf?_eq_some_iff.2 holds⟩
    · rintro ⟨v, reads, hnames⟩
      exact .document hsuffix reads (namesOf?_eq_some_iff.1 hnames)
  · rw [if_pos hsuffix]
    constructor
    · intro h
      cases h with
      | words _ split => exact words_eq_iff.2 split
      | document json _ _ => exact absurd json hsuffix
    · exact fun h => .words hsuffix (words_eq_iff.1 h)

/-- A text is read from a file if its bytes can be decoded; line ends are made alike. -/
theorem readText_eq_ok_iff {d : Disk} {p : Path} {text : String} :
    d.readText p = .ok text ↔ ∃ bytes decoded, d.read p = .ok bytes ∧
      Utf8.decode bytes = .ok decoded ∧
      String.ofList (Utf8.unifyLineEnds decoded.toList) = text := by
  rw [Disk.readText, bind_eq_ok_iff]
  refine exists_congr fun bytes => ?_
  rw [mapError_eq_ok_iff, bind_eq_ok_iff, ← exists_and_left]
  refine exists_congr fun decoded => and_congr_right fun _ => ?_
  rw [mapError_eq_ok_iff]
  exact and_congr_right fun _ => (Except.ok.injEq _ _).to_iff

/-- **Reading a file of names gives those that it lists.** -/
theorem readNames_eq_ok_iff {d : Disk} {p : Path} {names : List String} :
    readNames d p = .ok names ↔ FileLists d p names := by
  have htext : readNames d p = .ok names ↔
      ∃ text, d.readText p = .ok text ∧ Lists p.suffix text names := by
    rw [readNames, bind_eq_ok_iff]
    refine exists_congr fun text => and_congr_right fun _ => ?_
    rw [lists_iff]
    split
    · exact (Except.ok.injEq _ _).to_iff
    · rw [bind_eq_ok_iff]
      refine exists_congr fun v => and_congr mapError_eq_ok_iff ?_
      cases namesOf? v with
      | none => exact ⟨nofun, nofun⟩
      | some found => exact (Except.ok.injEq _ _).to_iff.trans Option.some_inj.symm
  rw [htext]
  constructor
  · rintro ⟨text, hread, hlists⟩
    obtain ⟨bytes, decoded, hbytes, hdecoded, rfl⟩ := readText_eq_ok_iff.1 hread
    exact ⟨bytes, decoded, hbytes, hdecoded, hlists⟩
  · rintro ⟨bytes, decoded, hbytes, hdecoded, hlists⟩
    exact ⟨_, readText_eq_ok_iff.2 ⟨bytes, decoded, hbytes, hdecoded, rfl⟩, hlists⟩

end Settings

end DefUse
