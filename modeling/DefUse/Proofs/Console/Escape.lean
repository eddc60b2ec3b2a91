import Mathlib.Data.List.Induction
import Mathlib.Data.List.Infix
import Mathlib.Data.List.TakeWhile
import DefUse.Console.Markup

/-!
# Proofs/Console/Escape — escaped texts can be shown

Escaping a text writes its tags with an odd number of backslashes before each.  What has to be seen
is that this gives rise to no other tags: `chunks_rewritten_append` says that the escaped text falls
into the same chunks, whatever stands after it, as long as that cannot end a tag.  So an escaped
text has no live tags, and no tag of it can fail.
-/

namespace DefUse.Markup

variable {cs body rest after : List Char} {c : Char} {n : Nat}

/-! ## Tags -/

/-- What can stand between the brackets of a tag. -/
def IsBody (body : List Char) : Prop :=
  ∃ c cs, body = c :: cs ∧ startsTag c = true ∧ ∀ x ∈ cs, isInTag x = true

/-- **A tag is a body between brackets**, and nothing else is. -/
theorem tagBody?_eq_some_iff :
    tagBody? cs = some (body, rest) ↔ IsBody body ∧ cs = body ++ ']' :: rest := by
  constructor
  · intro h
    cases cs with
    | nil => cases h
    | cons c cs =>
      rw [tagBody?] at h
      split at h
      next hc =>
        split at h
        next after hdrop =>
          obtain ⟨rfl, rfl⟩ := Prod.mk.inj (Option.some.inj h)
          refine ⟨⟨c, _, rfl, hc, fun x hx => List.mem_takeWhile_imp hx⟩, ?_⟩
          rw [List.cons_append, ← hdrop, List.takeWhile_append_dropWhile]
        next => cases h
      next => cases h
  · rintro ⟨⟨c, t, rfl, hc, ht⟩, rfl⟩
    have hdrop : (t ++ ']' :: rest).dropWhile isInTag = ']' :: rest := by
      rw [List.dropWhile_append_of_pos ht]
      rfl
    have htake : (t ++ ']' :: rest).takeWhile isInTag = t := by
      rw [List.takeWhile_append_of_pos ht]
      exact List.append_nil t
    simp only [List.cons_append, tagBody?, hc, hdrop, htake, if_true]

/-- A backslash before a tag is counted. -/
theorem tagAt?_slash (cs : List Char) :
    tagAt? ('\\' :: cs) = (tagAt? cs).map fun t => (t.1 + 1, t.2) := by
  simp only [tagAt?, List.dropWhile_cons, List.takeWhile_cons, decide_true, if_true,
    List.length_cons]
  split <;> simp [Option.map_map, Function.comp_def]

theorem tagAt?_bracket (cs : List Char) : tagAt? ('[' :: cs) = (tagBody? cs).map (0, ·) := rfl

/-- Any other character starts no tag. -/
theorem tagAt?_of_ne (hslash : c ≠ '\\') (hbracket : c ≠ '[') : tagAt? (c :: cs) = none := by
  rw [tagAt?, List.dropWhile_cons_of_neg (by simpa using hslash)]
  split
  next h => exact absurd (List.cons.inj h).1 hbracket
  next => rfl

/-- **A tag with backslashes before it** is found exactly where it stands. -/
theorem tagAt?_eq_some_iff : tagAt? cs = some (n, body, rest) ↔
    IsBody body ∧ cs = List.replicate n '\\' ++ tagText body ++ rest := by
  induction cs generalizing n with
  | nil =>
    constructor
    · intro h
      cases h
    · rintro ⟨-, h⟩
      simp [tagText] at h
  | cons c cs ih =>
    by_cases hslash : c = '\\'
    · subst hslash
      rw [tagAt?_slash]
      cases n with
      | zero => simp [tagText]
      | succ n =>
        rw [List.replicate_succ, List.cons_append, List.cons_append, List.cons_inj_right, ← ih]
        simp
    · by_cases hbracket : c = '['
      · subst hbracket
        rw [tagAt?_bracket]
        cases n with
        | zero => simp [tagBody?_eq_some_iff, tagText]
        | succ n => simp [List.replicate_succ]
      · rw [tagAt?_of_ne hslash hbracket]
        cases n <;> simp [tagText, List.replicate_succ, hslash, hbracket]

/-- A tag is a chunk. -/
theorem chunks_of_tagAt? (h : tagAt? cs = some (n, body, rest)) :
    chunks cs = .tag n body :: chunks rest := by
  cases cs with
  | nil => cases h
  | cons c cs =>
    rw [chunks]
    split
    next heq =>
      obtain ⟨rfl, rfl, rfl⟩ := by simpa using heq.symm.trans h
      rfl
    next heq => cases heq.symm.trans h

/-- Where no tag starts, a character is. -/
theorem chunks_of_tagAt?_none (h : tagAt? (c :: cs) = none) :
    chunks (c :: cs) = .char c :: chunks cs := by
  rw [chunks]
  split
  next heq => cases heq.symm.trans h
  next => rfl

/-! ## Other backslashes before the tags -/

/-- A chunk as it is written with another number of backslashes before a tag. -/
def Chunk.written (f : Nat → Nat) : Chunk → List Char
  | char c => [c]
  | tag slashes body => List.replicate (f slashes) '\\' ++ tagText body

/-- A chunk with another number of backslashes before a tag. -/
def Chunk.reslashed (f : Nat → Nat) : Chunk → Chunk
  | char c => char c
  | tag slashes body => tag (f slashes) body

/-- A text with other numbers of backslashes before its tags. -/
def rewritten (f : Nat → Nat) (cs : List Char) : List Char := (chunks cs).flatMap (Chunk.written f)

/-- No tag that is open before the text ends in it: a bracket opens before one closes. -/
def Shut (cs : List Char) : Prop := (cs.dropWhile isInTag).head? ≠ some ']'

instance (cs : List Char) : Decidable (Shut cs) := inferInstanceAs (Decidable (_ ≠ _))

/-- The text does not end in a backslash. -/
def EndsPlain (cs : List Char) : Prop := cs.getLast? ≠ some '\\'

instance (cs : List Char) : Decidable (EndsPlain cs) := inferInstanceAs (Decidable (_ ≠ _))

variable {f : Nat → Nat}

theorem rewritten_nil : rewritten f [] = [] := by
  rw [rewritten, chunks, List.flatMap_nil]

/-- Rewriting changes how many backslashes stand before a tag. -/
theorem rewritten_of_tagAt? (h : tagAt? cs = some (n, body, rest)) :
    rewritten f cs = List.replicate (f n) '\\' ++ tagText body ++ rewritten f rest := by
  rw [rewritten, chunks_of_tagAt? h, List.flatMap_cons]
  rfl

/-- It changes nothing else. -/
theorem rewritten_of_tagAt?_none (h : tagAt? (c :: cs) = none) :
    rewritten f (c :: cs) = c :: rewritten f cs := by
  rw [rewritten, chunks_of_tagAt?_none h, List.flatMap_cons]
  rfl

/-- Nothing is lost. -/
theorem rewritten_id (cs : List Char) : rewritten id cs = cs := by
  induction cs using chunks.induct with
  | case1 => exact rewritten_nil
  | case2 c cs n body rest h ih =>
    rw [rewritten_of_tagAt? h, ih, (tagAt?_eq_some_iff.1 h).2]
    rfl
  | case3 c cs h ih => rw [rewritten_of_tagAt?_none h, ih]

theorem EndsPlain.of_append (before : List Char) (h : EndsPlain (before ++ cs)) : EndsPlain cs := by
  intro hlast
  exact h (by rw [List.getLast?_append, hlast, Option.some_or])

/-- A character that may start a tag starts one unless what follows is shut. -/
theorem tagBody?_cons_eq_none_iff : tagBody? (c :: cs) = none ↔ (startsTag c = true → Shut cs) := by
  rw [tagBody?, Shut]
  by_cases hc : startsTag c = true
  · rw [if_pos hc]
    rcases cs.dropWhile isInTag with _ | ⟨d, rest⟩
    · simp [hc]
    · by_cases hd : d = ']'
      · simp [hc, hd]
      · simp only [hc, List.head?_cons, ne_eq, Option.some.injEq, hd, not_false_eq_true,
          true_imp_iff, iff_true]
        split
        next h => exact absurd (List.cons.inj h).1 hd
        next => rfl
  · simp [hc]

theorem Shut.tagBody?_eq_none (h : Shut cs) : tagBody? cs = none := by
  cases cs with
  | nil => rfl
  | cons c cs =>
    refine tagBody?_cons_eq_none_iff.2 fun hc => ?_
    have hin : isInTag c = true := by
      unfold startsTag at hc
      unfold isInTag
      by_cases hopen : c = '['
      · subst hopen; cases hc
      · by_cases hclose : c = ']'
        · subst hclose; cases hc
        · simp [hopen, hclose]
    rwa [Shut, List.dropWhile_cons_of_pos hin] at h

/-- Rewriting opens nothing that is shut. -/
theorem Shut.rewritten_append (hcs : Shut cs) (hafter : Shut after) :
    Shut (rewritten f cs ++ after) := by
  induction cs using chunks.induct with
  | case1 => rwa [rewritten_nil]
  | case2 c cs n body rest h ih =>
    have hslashes : ∀ x ∈ List.replicate (f n) '\\', isInTag x = true := by
      intro x hx
      rw [List.eq_of_mem_replicate hx]
      rfl
    rw [rewritten_of_tagAt? h, List.append_assoc, List.append_assoc, Shut,
      List.dropWhile_append_of_pos hslashes]
    simp [tagText, isInTag]
  | case3 c cs h ih =>
    rw [rewritten_of_tagAt?_none h, List.cons_append]
    by_cases hc : isInTag c = true
    · rw [Shut, List.dropWhile_cons_of_pos hc] at hcs ⊢
      exact ih hcs
    · rw [Shut, List.dropWhile_cons_of_neg hc] at hcs ⊢
      exact hcs

/-- A bracket that opens no tag does not open one then either. -/
theorem tagBody?_rewritten_append (h : tagBody? cs = none) (hafter : Shut after) :
    tagBody? (rewritten f cs ++ after) = none := by
  cases cs with
  | nil =>
    rw [rewritten_nil]
    exact hafter.tagBody?_eq_none
  | cons c cs =>
    cases htag : tagAt? (c :: cs) with
    | none =>
      rw [rewritten_of_tagAt?_none htag, List.cons_append]
      exact tagBody?_cons_eq_none_iff.2 fun hc =>
        (tagBody?_cons_eq_none_iff.1 h hc).rewritten_append hafter
    | some t =>
      rw [rewritten_of_tagAt? htag]
      cases f t.1 <;> rfl

/-- What is no tag does not become one. -/
theorem tagAt?_rewritten_append (hne : cs ≠ []) (hlast : EndsPlain cs) (h : tagAt? cs = none)
    (hafter : Shut after) : tagAt? (rewritten f cs ++ after) = none := by
  induction cs with
  | nil => exact absurd rfl hne
  | cons c cs ih =>
    rw [rewritten_of_tagAt?_none h, List.cons_append]
    by_cases hslash : c = '\\'
    · subst hslash
      rw [tagAt?_slash] at h ⊢
      have hcs : cs ≠ [] := by
        rintro rfl
        exact hlast rfl
      rw [ih hcs (hlast.of_append ['\\']) (Option.map_eq_none_iff.1 h)]
      rfl
    · by_cases hbracket : c = '['
      · subst hbracket
        rw [tagAt?_bracket] at h ⊢
        rw [tagBody?_rewritten_append (Option.map_eq_none_iff.1 h) hafter]
        rfl
      · exact tagAt?_of_ne hslash hbracket

/-- **A text falls into the same chunks whatever stands before its tags**, and whatever follows, if
that cannot end a tag. -/
theorem chunks_rewritten_append (hlast : EndsPlain cs) (hafter : Shut after) :
    chunks (rewritten f cs ++ after) = (chunks cs).map (Chunk.reslashed f) ++ chunks after := by
  induction cs using chunks.induct with
  | case1 => rw [rewritten_nil, chunks, List.map_nil, List.nil_append, List.nil_append]
  | case2 c cs n body rest h ih =>
    obtain ⟨hbody, hcs⟩ := tagAt?_eq_some_iff.1 h
    have htag : tagAt? (rewritten f (c :: cs) ++ after) =
        some (f n, body, rewritten f rest ++ after) := by
      rw [rewritten_of_tagAt? h, List.append_assoc]
      exact tagAt?_eq_some_iff.2 ⟨hbody, rfl⟩
    rw [hcs] at hlast
    rw [chunks_of_tagAt? htag, chunks_of_tagAt? h, ih (hlast.of_append _), List.map_cons,
      List.cons_append]
    rfl
  | case3 c cs h ih =>
    have htag := tagAt?_rewritten_append (f := f) (List.cons_ne_nil c cs) hlast h hafter
    rw [rewritten_of_tagAt?_none h, List.cons_append] at htag ⊢
    rw [chunks_of_tagAt?_none htag, chunks_of_tagAt?_none h,
      ih (hlast.of_append [c]), List.map_cons, List.cons_append]
    rfl

/-! ## The end of a text

Only backslashes at its end can join a text with what follows it. -/

/-- The number of backslashes that those at the end of a text are written as. -/
def closing (k : Nat) : Nat := if k = 1 then 2 else k

/-- Every text is one that ends plain with backslashes behind it. -/
theorem exists_eq_append_slashes (cs : List Char) :
    ∃ base k, cs = base ++ List.replicate k '\\' ∧ EndsPlain base := by
  induction cs using List.reverseRecOn with
  | nil => exact ⟨[], 0, rfl, by simp [EndsPlain]⟩
  | append_singleton cs c ih =>
    by_cases hc : c = '\\'
    · obtain ⟨base, k, rfl, hbase⟩ := ih
      refine ⟨base, k + 1, ?_, hbase⟩
      rw [hc, List.append_assoc, List.replicate_succ']
    · exact ⟨cs ++ [c], 0, (List.append_nil _).symm, by simp [EndsPlain, hc]⟩

/-- The backslashes at the end are what is changed there. -/
theorem closeEnd_append_slashes (h : EndsPlain cs) (k : Nat) :
    closeEnd (cs ++ List.replicate k '\\') = cs ++ List.replicate (closing k) '\\' := by
  have hhead : ∀ rest, cs.reverse ≠ '\\' :: rest := by
    intro rest hrev
    refine h ?_
    rw [← List.head?_reverse, hrev]
    rfl
  match k with
  | 0 =>
    rw [show closing 0 = 0 from rfl, List.replicate_zero, List.append_nil, closeEnd]
    split
    next hrev => rfl
    next hrev => exact absurd hrev (hhead _)
    next => rfl
  | 1 =>
    have hrev : (cs ++ ['\\']).reverse = '\\' :: cs.reverse := by simp
    rw [closeEnd, closing, List.replicate_one, hrev]
    split
    next hslash => exact absurd (List.cons.inj hslash).2 (hhead _)
    next => simp
    next hne => exact absurd rfl (hne _)
  | k + 2 =>
    have hrev : (cs ++ List.replicate (k + 2) '\\').reverse =
        '\\' :: '\\' :: (List.replicate k '\\' ++ cs.reverse) := by
      rw [List.reverse_append, List.reverse_replicate]
      rfl
    rw [closeEnd, hrev]
    rfl

/-- Backslashes by themselves are characters. -/
theorem chunks_slashes (k : Nat) :
    chunks (List.replicate k '\\') = List.replicate k (.char '\\') := by
  induction k with
  | zero => rw [List.replicate_zero, chunks, List.replicate_zero]
  | succ k ih =>
    have htag : ∀ k, tagAt? (List.replicate k '\\') = none := by
      intro k
      induction k with
      | zero => rfl
      | succ k ih =>
        rw [List.replicate_succ, tagAt?_slash, ih]
        rfl
    have h := htag (k + 1)
    rw [List.replicate_succ] at h ⊢
    rw [chunks_of_tagAt?_none h, ih, List.replicate_succ]

theorem shut_slashes_append (k : Nat) {after : List Char} (h : Shut after) :
    Shut (List.replicate k '\\' ++ after) := by
  have hslashes : ∀ x ∈ List.replicate k '\\', isInTag x = true := by
    intro x hx
    rw [List.eq_of_mem_replicate hx]
    rfl
  rwa [Shut, List.dropWhile_append_of_pos hslashes]

theorem shut_slashes (k : Nat) : Shut (List.replicate k '\\') := by
  have hnil : Shut [] := by decide
  simpa using shut_slashes_append k hnil

/-- The number of backslashes before a tag of an escaped text. -/
def doubled (n : Nat) : Nat := 2 * n + 1

/-- Escaping doubles the backslashes before tags, and adds one. -/
theorem Chunk.escaped_eq : Chunk.escaped = Chunk.written doubled := by
  funext chunk
  cases chunk <;> rfl

/-- Rewriting keeps the last character. -/
theorem getLast?_rewritten (cs : List Char) : (rewritten f cs).getLast? = cs.getLast? := by
  induction cs using chunks.induct with
  | case1 => rw [rewritten_nil]
  | case2 c cs n body rest h ih =>
    have hlast : ∀ k, (List.replicate k '\\' ++ tagText body).getLast? = some ']' := by
      intro k
      rw [tagText, ← List.append_assoc, List.getLast?_concat]
    rw [rewritten_of_tagAt? h, (tagAt?_eq_some_iff.1 h).2, List.getLast?_append, hlast, ih,
      List.getLast?_append, hlast]
  | case3 c cs h ih => rw [rewritten_of_tagAt?_none h, List.getLast?_cons, ih, List.getLast?_cons]

/-- **An escaped text**: the tags are rewritten, and a lone backslash at the end. -/
theorem toList_escape {s : String} {base : List Char} {k : Nat}
    (hs : s.toList = base ++ List.replicate k '\\') (hbase : EndsPlain base) :
    (escape s).toList = rewritten doubled base ++ List.replicate (closing k) '\\' := by
  have hchunks : chunks s.toList = chunks base ++ List.replicate k (.char '\\') := by
    have h := chunks_rewritten_append (f := id) hbase (shut_slashes k)
    rw [rewritten_id, ← hs, chunks_slashes] at h
    rw [h]
    congr 1
    exact List.map_id'' (fun chunk => by cases chunk <;> rfl) _
  have hslashes : ∀ k, (List.replicate k (Chunk.char '\\')).flatMap (Chunk.written doubled) =
      List.replicate k '\\' := by
    intro k
    induction k with
    | zero => rfl
    | succ k ih =>
      rw [List.replicate_succ, List.flatMap_cons, ih]
      rfl
  have hlast : EndsPlain (rewritten doubled base) := by rwa [EndsPlain, getLast?_rewritten]
  rw [escape, String.toList_ofList, Chunk.escaped_eq, hchunks, List.flatMap_append, hslashes]
  exact closeEnd_append_slashes hlast k

/-! ## Showing -/

/-- The tag that a chunk is, unless it is plain text. -/
def Chunk.live? : Chunk → Option (List Char)
  | char _ => none
  | tag slashes body => if slashes % 2 = 1 then none else some body

/-- What a chunk is shown as, but for pictures and the like. -/
def Chunk.text : Chunk → List Char
  | char c => [c]
  | tag slashes body =>
    List.replicate (slashes / 2) '\\' ++ if slashes % 2 = 1 then tagText body else []

/-- The tag that a piece is, unless it is plain text. -/
def Piece.tag? : Piece → Option (List Char)
  | plain _ => none
  | tag body => some body

/-- The plain text of a piece. -/
def Piece.text : Piece → List Char
  | plain text => text
  | tag _ => []

/-- **A marked text is shown if its tags can be applied**, and then it is shown piece by piece. -/
theorem renderPieces?_eq (styles : List String) (ps : List Piece) :
    renderPieces? styles ps =
      ((ps.filterMap Piece.tag?).foldlM applyTag? styles).map fun _ =>
        ps.flatMap fun p => shown p.text := by
  induction ps generalizing styles with
  | nil => rfl
  | cons p ps ih =>
    cases p with
    | plain text =>
      rw [renderPieces?, ih, Option.map_map]
      rfl
    | tag body =>
      rw [renderPieces?, show (Piece.tag body :: ps).filterMap Piece.tag? =
        body :: ps.filterMap Piece.tag? from rfl, List.foldlM_cons]
      cases applyTag? styles body with
      | none => rfl
      | some styles => exact ih styles

/-- The tags that count are the same in pieces as in chunks. -/
theorem filterMap_tag?_pieces (cs : List Chunk) :
    (pieces cs).filterMap Piece.tag? = cs.filterMap Chunk.live? := by
  have hprepend : ∀ (c : Char) (ps : List Piece),
      (Piece.prepend c ps).filterMap Piece.tag? = ps.filterMap Piece.tag? := by
    intro c ps
    rcases ps with _ | ⟨p | p, ps⟩ <;> rfl
  induction cs with
  | nil => rfl
  | cons chunk cs ih =>
    cases chunk with
    | char c => exact (hprepend c _).trans ih
    | tag slashes body =>
      rw [pieces]
      by_cases hodd : slashes % 2 = 1 <;>
        simp [hodd, List.filterMap_cons, Piece.tag?, Chunk.live?, ih]

/-- So is the text. -/
theorem flatMap_text_pieces (cs : List Chunk) :
    (pieces cs).flatMap Piece.text = cs.flatMap Chunk.text := by
  have hprepend : ∀ (c : Char) (ps : List Piece),
      (Piece.prepend c ps).flatMap Piece.text = c :: ps.flatMap Piece.text := by
    intro c ps
    rcases ps with _ | ⟨p | p, ps⟩ <;> rfl
  induction cs with
  | nil => rfl
  | cons chunk cs ih =>
    cases chunk with
    | char c => rw [pieces, hprepend, ih]; rfl
    | tag slashes body =>
      rw [pieces]
      by_cases hodd : slashes % 2 = 1 <;> simp [hodd, Piece.text, Chunk.text, ih]

/-- What a text is shown as if its tags can be applied. -/
def shownText (cs : List Chunk) : List Char := (pieces cs).flatMap fun p => shown p.text

/-- **What is shown of a text is its chunks without the tags**, if the tags can be applied. -/
theorem render?_eq (s : String) : render? s =
    (((chunks s.toList).filterMap Chunk.live?).foldlM applyTag? []).map fun _ =>
      String.ofList (shownText (chunks s.toList)) := by
  rw [render?, renderPieces?_eq, filterMap_tag?_pieces, Option.map_map]
  rfl

/-! ## Escaped texts among others -/

/-- A text without backslashes and opening brackets. -/
def Unmarked (cs : List Char) : Prop := ∀ c ∈ cs, c ≠ '\\' ∧ c ≠ '['

instance (cs : List Char) : Decidable (Unmarked cs) := List.decidableBAll ..

/-- A text without brackets and backslashes is characters, whatever follows. -/
theorem chunks_unmarked_append (h : Unmarked cs) :
    chunks (cs ++ rest) = cs.map .char ++ chunks rest := by
  induction cs with
  | nil => rfl
  | cons c cs ih =>
    obtain ⟨⟨hslash, hbracket⟩, hcs⟩ := List.forall_mem_cons.1 h
    rw [List.cons_append, chunks_of_tagAt?_none (tagAt?_of_ne hslash hbracket), ih hcs]
    rfl

/-- Backslashes and a tag are one chunk. -/
theorem chunks_slashes_tag (k : Nat) (h : IsBody body) :
    chunks (List.replicate k '\\' ++ tagText body) = [.tag k body] := by
  have htag : tagAt? (List.replicate k '\\' ++ tagText body) = some (k, body, []) :=
    tagAt?_eq_some_iff.2 ⟨h, (List.append_nil _).symm⟩
  rw [chunks_of_tagAt? htag, chunks]

theorem filterMap_live?_char (cs : List Char) : (cs.map Chunk.char).filterMap Chunk.live? = [] := by
  induction cs with
  | nil => rfl
  | cons c cs ih => exact ih

/-- The tags of an escaped text are plain text. -/
theorem filterMap_live?_doubled (cs : List Chunk) :
    (cs.map (Chunk.reslashed doubled)).filterMap Chunk.live? = [] := by
  rw [List.filterMap_map, List.filterMap_eq_nil_iff]
  intro chunk _
  cases chunk with
  | char c => rfl
  | tag slashes body =>
    have hodd : doubled slashes % 2 = 1 := by
      unfold doubled
      omega
    exact if_pos hodd

/-- **The chunks of an escaped text**: each tag has an odd number of backslashes before it. -/
theorem chunks_append_escape {pre s : String} {base : List Char} {k : Nat}
    (hpre : Unmarked pre.toList) (hs : s.toList = base ++ List.replicate k '\\')
    (hbase : EndsPlain base) :
    chunks (pre ++ escape s).toList =
      pre.toList.map .char ++ ((chunks base).map (Chunk.reslashed doubled) ++
        (List.replicate (closing k) '\\').map .char) := by
  rw [String.toList_append, chunks_unmarked_append hpre, toList_escape hs hbase,
    chunks_rewritten_append hbase (shut_slashes _), chunks_slashes, List.map_replicate]

/-- The body of the tag that opens the style of paths. -/
def pathBody : List Char := ['p', 'a', 't', 'h']

/-- The chunks of a path, which is escaped between two tags of its own. -/
theorem chunks_path {s : String} {base : List Char} {k : Nat}
    (hs : s.toList = base ++ List.replicate k '\\') (hbase : EndsPlain base) :
    chunks ("[path]" ++ escape s ++ "[/path]").toList =
      .tag 0 pathBody :: ((chunks base).map (Chunk.reslashed doubled) ++
        [.tag (closing k) ('/' :: pathBody)]) := by
  have hopen : ∀ rest, tagAt? (tagText pathBody ++ rest) = some (0, pathBody, rest) := fun rest =>
    tagAt?_eq_some_iff.2 ⟨⟨'p', _, rfl, rfl, List.all_eq_true.1 rfl⟩, rfl⟩
  have hclose : IsBody ('/' :: pathBody) := ⟨'/', _, rfl, rfl, List.all_eq_true.1 rfl⟩
  have hafter : Shut (tagText ('/' :: pathBody)) := by decide
  have hshut := shut_slashes_append (closing k) hafter
  rw [String.toList_append, String.toList_append, toList_escape hs hbase, List.append_assoc,
    List.append_assoc]
  change chunks (tagText pathBody ++ (_ ++ (_ ++ tagText ('/' :: pathBody)))) = _
  rw [chunks_of_tagAt? (hopen _), chunks_rewritten_append hbase hshut, chunks_slashes_tag _ hclose]

/-- **An escaped text can be shown**, whatever plain text stands before it. -/
theorem exists_render?_escape {pre : String} (hpre : Unmarked pre.toList) (s : String) :
    ∃ text, render? (pre ++ escape s) = some text := by
  obtain ⟨base, k, hs, hbase⟩ := exists_eq_append_slashes s.toList
  rw [render?_eq, chunks_append_escape hpre hs hbase, List.filterMap_append, List.filterMap_append,
    filterMap_live?_char, filterMap_live?_char, filterMap_live?_doubled]
  exact ⟨_, rfl⟩

/-- **A path can be shown.** -/
theorem exists_render?_path (s : String) :
    ∃ text, render? ("[path]" ++ escape s ++ "[/path]") = some text := by
  obtain ⟨base, k, hs, hbase⟩ := exists_eq_append_slashes s.toList
  have hopen : applyTag? [] pathBody = some ["path"] := by decide +kernel
  have hclose : applyTag? ["path"] ('/' :: pathBody) = some [] := by decide +kernel
  have hlive : Chunk.live? (.tag 0 pathBody) = some pathBody := rfl
  rw [render?_eq, chunks_path hs hbase, List.filterMap_cons_some hlive, List.filterMap_append,
    filterMap_live?_doubled, List.nil_append, List.foldlM_cons, hopen]
  -- An odd number of backslashes at the end makes plain text of the closing tag.
  by_cases hodd : closing k % 2 = 1
  · simp [Chunk.live?, hodd]
  · simp [Chunk.live?, hodd, hclose]

end DefUse.Markup
