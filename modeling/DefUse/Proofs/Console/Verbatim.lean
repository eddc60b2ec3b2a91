import Mathlib.Data.List.Basic
import DefUse.Console.Log
import DefUse.Proofs.Console.Escape

/-!
# Proofs/Console/Verbatim — texts that are shown as they stand

Escaping protects a text from being taken for tags, and from nothing else.  A name between colons
still becomes a picture, a backslash before a bracket that opens no tag is still dropped, and so are
some control characters.  `Verbatim` says that there is none of this in a text, and such a text is
shown as it stands when it is escaped, in a log record as in a printed path.
-/

namespace DefUse

/-! ## Lines -/

theorem splitAt_of_notMem {sep : Char} {cs : List Char} (h : sep ∉ cs) : splitAt sep cs = [cs] := by
  induction cs with
  | nil => rfl
  | cons c cs ih =>
    rw [List.mem_cons, not_or] at h
    rw [splitAt, if_neg (Ne.symm h.1), ih h.2]

theorem expandTabsFrom_of_notMem {cs : List Char} (h : '\t' ∉ cs) (column : Nat) :
    expandTabsFrom column cs = cs := by
  induction cs generalizing column with
  | nil => rfl
  | cons c cs ih =>
    rw [List.mem_cons, not_or] at h
    rw [expandTabsFrom, if_neg (Ne.symm h.1), ih h.2]

namespace Markup

variable {cs text : List Char}

/-! ## Pictures -/

/-- No name between colons has a picture. -/
def Unpictured (cs : List Char) : Prop :=
  ∀ name, ':' :: (name ++ [':']) <:+: cs → (∀ c ∈ name, c ≠ ':' ∧ isBlank c = false) →
    namedPicture name = ':' :: (name ++ [':'])

theorem Unpictured.of_infix (h : Unpictured cs) (ht : text <:+: cs) : Unpictured text :=
  fun name hname => h name (hname.trans ht)

/-- The text of the name that is under way. -/
def underWay : Option (List Char) → List Char
  | none => []
  | some name => ':' :: name.reverse

theorem picturesFrom_of_unpictured {open? : Option (List Char)}
    (h : Unpictured (underWay open? ++ cs))
    (hopen : ∀ name ∈ open?, ∀ c ∈ name, c ≠ ':' ∧ isBlank c = false) :
    picturesFrom open? cs = underWay open? ++ cs := by
  fun_induction picturesFrom open? cs with
  | case1 name => exact (List.append_nil _).symm
  | case2 => rfl
  | case3 rest ih => exact ih h (by simp)
  | case4 c rest hc ih =>
    rw [ih (h.of_infix (List.suffix_cons c rest).isInfix) (by simp)]
    rfl
  | case5 rest name ih =>
    have hname : namedPicture name.reverse = ':' :: (name.reverse ++ [':']) :=
      h name.reverse ⟨[], rest, by simp [underWay]⟩ (by simpa using hopen name rfl)
    have hrest : rest <:+: underWay (some name) ++ ':' :: rest :=
      ⟨underWay (some name) ++ [':'], [], by simp⟩
    rw [hname, ih (h.of_infix hrest) (by simp)]
    simp [underWay]
  | case6 c rest name hc hblank ih =>
    have hrest : rest <:+: underWay (some name) ++ c :: rest :=
      ⟨underWay (some name) ++ [c], [], by simp⟩
    rw [ih (h.of_infix hrest) (by simp)]
    rfl
  | case7 c rest name hc hblank ih =>
    have hsame : underWay (some (c :: name)) ++ rest = underWay (some name) ++ c :: rest := by
      simp [underWay]
    rw [hsame] at ih
    refine ih h ?_
    rintro _ ⟨⟩
    exact List.forall_mem_cons.2 ⟨⟨hc, by simpa using hblank⟩, hopen name rfl⟩

/-! ## Plain text -/

/-- All characters of a text are shown, and none of them is a line feed or a tab. -/
def Kept (cs : List Char) : Prop := ∀ c ∈ cs, c ≠ '\n' ∧ c ≠ '\t' ∧ isDropped c = false

instance (cs : List Char) : Decidable (Kept cs) := List.decidableBAll ..

/-- **A text that is shown as it stands** wherever it is found in plain text: it is one line without
tabs and other control characters, it has no backslash before a bracket, and it names no picture. -/
structure Plainly (cs : List Char) : Prop where
  kept : Kept cs
  bracket : ¬ ['\\', '['] <:+: cs
  pictures : Unpictured cs

theorem Plainly.of_infix (h : Plainly cs) (ht : text <:+: cs) : Plainly text where
  kept c hc := h.kept c (ht.mem hc)
  bracket hb := h.bracket (hb.trans ht)
  pictures := h.pictures.of_infix ht

/-- What does not hold a character stands on one side of it. -/
theorem infix_of_infix_append_cons {before : List Char} {c : Char}
    (h : text <:+: before ++ c :: cs) (hc : c ∉ text) : text <:+: before ∨ text <:+: cs := by
  obtain ⟨left, right, heq⟩ := h
  rw [List.append_assoc] at heq
  obtain ⟨mid, rfl, hmid⟩ | ⟨mid, rfl, hmid⟩ := List.append_eq_append_iff.1 heq
  · -- the text starts before the character
    obtain ⟨mid', rfl, -⟩ | ⟨mid', rfl, hmid'⟩ := List.append_eq_append_iff.1 hmid
    · exact Or.inl ⟨left, mid', by simp⟩
    · cases mid' with
      | nil => exact Or.inl ⟨left, [], by simp⟩
      | cons d mid' =>
        obtain ⟨rfl, -⟩ := List.cons.inj hmid'
        exact absurd (by simp) hc
  · cases mid with
    | nil =>
      cases text with
      | nil => exact Or.inl (List.nil_infix)
      | cons d text =>
        obtain ⟨rfl, -⟩ := List.cons.inj hmid
        exact absurd List.mem_cons_self hc
    | cons d mid =>
      obtain ⟨-, rfl⟩ := List.cons.inj hmid
      exact Or.inr ⟨mid, right, by simp⟩

/-- A blank keeps what stands before it apart from what follows. -/
theorem Plainly.append_blank {before : List Char} (hbefore : Plainly before) (hcs : Plainly cs) :
    Plainly (before ++ ' ' :: cs) where
  kept c hc := by
    rcases List.mem_append.1 hc with hc | hc
    · exact hbefore.kept c hc
    · rcases List.mem_cons.1 hc with rfl | hc
      · decide
      · exact hcs.kept c hc
  bracket h := by
    rcases infix_of_infix_append_cons h (by decide) with h | h
    · exact hbefore.bracket h
    · exact hcs.bracket h
  pictures name h hname := by
    have hblank : ' ' ∉ ':' :: (name ++ [':']) := by
      intro hmem
      have hmem' : ' ' ∈ name := by simpa using hmem
      exact absurd (hname _ hmem').2 (by decide)
    rcases infix_of_infix_append_cons h hblank with h | h
    · exact hbefore.pictures name h hname
    · exact hcs.pictures name h hname

/-- Two colons are needed to name a picture. -/
theorem plainly_of_count (hkept : Kept cs) (hslash : '\\' ∉ cs) (hcolon : cs.count ':' ≤ 1) :
    Plainly cs where
  kept := hkept
  bracket h := hslash (h.mem List.mem_cons_self)
  pictures name h _ := by
    have hcount := h.sublist.count_le ':'
    rw [List.count_cons_self, List.count_append, List.count_singleton_self] at hcount
    omega

theorem dropEscapes_of_not_infix (h : ¬ ['\\', '['] <:+: cs) : dropEscapes cs = cs := by
  fun_induction dropEscapes cs with
  | case1 rest => exact absurd ⟨[], rest, rfl⟩ h
  | case2 c rest _ ih => rw [ih fun hrest => h (hrest.trans (List.suffix_cons c rest).isInfix)]
  | case3 => rfl

theorem Plainly.shown_eq (h : Plainly cs) : shown cs = cs := by
  have hnone : Unpictured (underWay none ++ cs) := h.pictures
  have hpictures : withPictures cs = cs := picturesFrom_of_unpictured hnone (by simp)
  rw [shown, dropEscapes_of_not_infix h.bracket, hpictures, List.filter_eq_self]
  intro c hc
  rw [(h.kept c hc).2.2]
  rfl

/-- Chunks are shown as they stand if their text is. -/
theorem Plainly.shownText_eq {chunks : List Chunk} (h : Plainly (chunks.flatMap Chunk.text)) :
    shownText chunks = chunks.flatMap Chunk.text := by
  rw [← flatMap_text_pieces] at h ⊢
  refine List.flatMap_congr fun p hp => Plainly.shown_eq (h.of_infix ?_)
  exact List.infix_of_mem_flatten (List.mem_map_of_mem hp)

/-- The tags of an escaped text are shown as they stood in the text. -/
theorem flatMap_text_doubled (cs : List Char) :
    ((chunks cs).map (Chunk.reslashed doubled)).flatMap Chunk.text = cs := by
  have hchunk : ∀ chunk : Chunk, (chunk.reslashed doubled).text = chunk.written id := by
    intro chunk
    cases chunk with
    | char c => rfl
    | tag slashes body =>
      have hodd : doubled slashes % 2 = 1 := by unfold doubled; omega
      have hhalf : doubled slashes / 2 = slashes := by unfold doubled; omega
      rw [Chunk.reslashed, Chunk.text, if_pos hodd, hhalf]
      rfl
  rw [List.flatMap_map]
  exact (List.flatMap_congr fun chunk _ => hchunk chunk).trans (rewritten_id cs)

theorem flatMap_text_char (cs : List Char) : (cs.map Chunk.char).flatMap Chunk.text = cs := by
  induction cs with
  | nil => rfl
  | cons c cs ih => exact congrArg (c :: ·) ih

/-- **A text that escaping leaves nothing to be desired for.** -/
structure Verbatim (s : String) : Prop where
  plainly : Plainly s.toList
  endsPlain : EndsPlain s.toList

/-- **An escaped text is shown as it stands**, with the text before it. -/
theorem render?_escape {pre s : String} (hpre : Unmarked pre.toList)
    (hplainly : Plainly (pre ++ s).toList) (hlast : EndsPlain s.toList) :
    render? (pre ++ escape s) = some (pre ++ s) := by
  have hs : s.toList = s.toList ++ List.replicate 0 '\\' := (List.append_nil _).symm
  have hchunks := chunks_append_escape hpre hs hlast
  have htext : (chunks (pre ++ escape s).toList).flatMap Chunk.text = (pre ++ s).toList := by
    rw [hchunks, List.flatMap_append, List.flatMap_append, flatMap_text_char, flatMap_text_doubled,
      flatMap_text_char, String.toList_append]
    exact congrArg (pre.toList ++ ·) (List.append_nil _)
  rw [← htext] at hplainly
  rw [render?_eq, hplainly.shownText_eq, htext, hchunks, List.filterMap_append,
    List.filterMap_append, filterMap_live?_char, filterMap_live?_doubled, filterMap_live?_char]
  exact congrArg some (String.ofList_toList)

/-- **A path is shown as it stands.** -/
theorem Verbatim.render?_path {s : String} (h : Verbatim s) :
    render? ("[path]" ++ escape s ++ "[/path]") = some s := by
  have hs : s.toList = s.toList ++ List.replicate 0 '\\' := (List.append_nil _).symm
  have hchunks := chunks_path hs h.endsPlain
  have htext : (chunks ("[path]" ++ escape s ++ "[/path]").toList).flatMap Chunk.text =
      s.toList := by
    rw [hchunks, List.flatMap_cons, List.flatMap_append, flatMap_text_doubled]
    exact List.append_nil _
  obtain ⟨text, hrender⟩ := exists_render?_path s
  have hplainly := h.plainly
  rw [← htext] at hplainly
  rw [render?_eq, hplainly.shownText_eq, htext, String.ofList_toList] at hrender ⊢
  obtain ⟨_, hstyles, rfl⟩ := Option.map_eq_some_iff.1 hrender
  exact hrender

/-- What is shown as one text without line breaks and tabs is one line. -/
theorem lines?_of_render? {s text : String} (h : render? s = some text)
    (htext : Plainly text.toList) : lines? s = some [text] := by
  have hbreak : '\n' ∉ text.toList := fun hc => (htext.kept _ hc).1 rfl
  have htab : '\t' ∉ text.toList := fun hc => (htext.kept _ hc).2.1 rfl
  rw [lines?, h, Option.map_some, splitAt_of_notMem hbreak, List.map_singleton,
    expandTabsFrom_of_notMem htab, String.ofList_toList]

end Markup

end DefUse
