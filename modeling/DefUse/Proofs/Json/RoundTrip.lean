import DefUse.Proofs.Json.Number
import DefUse.Proofs.Json.Proper

/-!
# Proofs/Json/RoundTrip — a document reads back

`readDocument_render`: whatever the layout, the text of a document reads back as that document, with
the same numbers, the same texts code point for code point, and its keys in the same order.  The
document has to be one that can be read, which what is read always is (`readable_of_readDocument`):
proper, and without a whole number of too many digits.

What carries the induction is `ReadsBack`: the text of a document is taken in up to its end, and
what follows it is left, for every bound on the reading that is above the length of the text.
-/

namespace DefUse.Json

open Document (store)

variable {layout : Layout} {v : Document} {fuel : Nat} {c : Char} {cs gap rest : List Char}

/-! ## Gaps -/

/-- Spaces only. -/
def Gap (gap : List Char) : Prop := ∀ c ∈ gap, isSpace c = true

/-- A line break and what indents the next line are a gap. -/
theorem gap_break (layout : Layout) : Gap layout.break.toList := by
  cases layout with
  | compact => exact List.forall_mem_nil _
  | indented n =>
    rw [Layout.break, String.toList_append, toList_pushn]
    intro c hc
    rcases List.mem_append.1 hc with hc | hc
    · rw [List.mem_singleton.1 hc]
      rfl
    · rw [List.eq_of_mem_replicate hc]
      rfl

/-- Between two parts there is a comma and a gap. -/
theorem exists_between (layout : Layout) :
    ∃ gap, Gap gap ∧ layout.between.toList = ',' :: gap := by
  cases layout with
  | compact => exact ⟨[' '], by simp [Gap, isSpace], rfl⟩
  | indented n => exact ⟨_, gap_break (.indented n), String.toList_append⟩

/-- A gap is skipped. -/
theorem skipSpaces_gap (hgap : Gap gap) (cs : List Char) : skipSpaces (gap ++ cs) = skipSpaces cs :=
  List.dropWhile_append_of_pos hgap

theorem skipSpaces_cons (h : isSpace c = false) : skipSpaces (c :: cs) = c :: cs :=
  List.dropWhile_cons_of_neg (by simp [h])

theorem ends_nil : Ends [] := by
  rintro _ ⟨⟩

theorem ends_cons (hc : Ends [c]) : Ends (c :: cs) := hc

/-- A number ends before a gap. -/
theorem ends_gap (hgap : Gap gap) (hrest : Ends rest) : Ends (gap ++ rest) := by
  cases gap with
  | nil => exact hrest
  | cons g gap =>
    rintro _ ⟨⟩
    have hspace := hgap g List.mem_cons_self
    simp only [isSpace, Bool.or_eq_true, decide_eq_true_eq] at hspace
    rcases hspace with ((rfl | rfl) | rfl) | rfl <;> decide

/-! ## Documents that can be read -/

namespace Document

/-- Items can be written if each of them can. -/
theorem areWritable_iff {items : List Document} :
    areWritable items = true ↔ ∀ d ∈ items, d.isWritable = true := by
  induction items with
  | nil => exact iff_of_true rfl (List.forall_mem_nil _)
  | cons d rest ih => rw [areWritable, Bool.and_eq_true, ih, List.forall_mem_cons]

/-- Fields can be written if each of their values can. -/
theorem areWritableFields_iff {fields : List (Text × Document)} :
    areWritableFields fields = true ↔ ∀ f ∈ fields, f.2.isWritable = true := by
  induction fields with
  | nil => exact iff_of_true rfl (List.forall_mem_nil _)
  | cons f rest ih => rw [areWritableFields, Bool.and_eq_true, ih, List.forall_mem_cons]

/-- **A document that can be read**: it is proper, and its whole numbers have not too many
digits. -/
structure Readable (d : Document) : Prop where
  proper : d.Proper
  isWritable : d.isWritable = true

/-- A list is readable if its items are. -/
theorem readable_list {items : List Document} :
    (list items).Readable ↔ ∀ d ∈ items, d.Readable := by
  refine ⟨fun h d hd => ⟨proper_list.1 h.proper d hd, areWritable_iff.1 h.isWritable d hd⟩,
    fun h => ⟨proper_list.2 fun d hd => (h d hd).proper,
      areWritable_iff.2 fun d hd => (h d hd).isWritable⟩⟩

/-- A record is readable if no key comes twice and its keys and values are. -/
theorem readable_record {fields : List (Text × Document)} :
    (record fields).Readable ↔
      (fields.map (·.1)).Nodup ∧ ∀ f ∈ fields, f.1.Joined ∧ f.2.Readable := by
  constructor
  · rintro ⟨hproper, hwritable⟩
    obtain ⟨hkeys, hfields⟩ := proper_record.1 hproper
    exact ⟨hkeys, fun f hf =>
      ⟨(hfields f hf).1, (hfields f hf).2, areWritableFields_iff.1 hwritable f hf⟩⟩
  · rintro ⟨hkeys, hfields⟩
    exact ⟨proper_record.2 ⟨hkeys, fun f hf => ⟨(hfields f hf).1, (hfields f hf).2.proper⟩⟩,
      areWritableFields_iff.2 fun f hf => (hfields f hf).2.isWritable⟩

theorem readable_str {t : Text} (ht : t.Joined) : (str t).Readable := ⟨ht, rfl⟩

/-- **Storing a document that can be read** keeps the fields so. -/
theorem Readable.store {key : Text} {d : Document} {fields : List (Text × Document)}
    (hkey : key.Joined) (hd : d.Readable) (h : (record fields).Readable) :
    (record (store key d fields)).Readable := by
  refine ⟨hd.proper.store hkey h.proper, areWritableFields_iff.2 fun f hf => ?_⟩
  rcases mem_store hf with rfl | hf
  · exact hd.isWritable
  · exact areWritableFields_iff.1 h.isWritable f hf

end Document

/-! ## What a value starts with -/

/-- A number begins with a sign or a digit. -/
theorem head_of_readNumber {n : Document × List Char} (h : readNumber (c :: cs) = .ok n) :
    c = '-' ∨ c.isDigit = true := by
  by_cases hminus : c = '-'
  · exact Or.inl hminus
  · have hsign : splitSign (c :: cs) = (false, c :: cs) := by
      unfold splitSign
      split
      · simp_all
      · rfl
    unfold readNumber at h
    rw [hsign] at h
    dsimp only at h
    cases hwhole : readWhole (c :: cs) with
    | none => rw [hwhole] at h; cases h
    | some whole =>
      unfold readWhole at hwhole
      split at hwhole
      · rename_i hzero
        obtain ⟨rfl, -⟩ := List.cons.inj hzero
        exact Or.inr rfl
      · by_contra hc
        simp [not_or.1 hc] at hwhole

/-- What reads as a number is read as one. -/
theorem readValue_of_readNumber (h : readNumber cs = .ok (v, rest)) :
    readValue (fuel + 1) cs = .ok (v, rest) := by
  rw [readValue.eq_def]
  dsimp only
  split
  case h_9 => simp [readNumber, splitSign, readWhole] at h
  case h_10 => exact h
  all_goals exact absurd (head_of_readNumber h) (by decide)

/-- A character that a value may start with is no space, does not end a list and is no byte order
mark. -/
structure Starts (c : Char) : Prop where
  isSpace : isSpace c = false
  ne_bracket : c ≠ ']'
  ne_mark : c ≠ '\ufeff'

theorem starts_of_isDigit (h : c.isDigit = true) : Starts c := by
  refine ⟨?_, ?_, ?_⟩
  · cases hspace : isSpace c with
    | false => rfl
    | true =>
      simp only [isSpace, Bool.or_eq_true, decide_eq_true_eq] at hspace
      rcases hspace with ((rfl | rfl) | rfl) | rfl <;> cases h
  all_goals
    rintro rfl
    cases h

/-- **A value starts at once.** -/
theorem head_of_readValue {r : Document × List Char} (h : readValue fuel cs = .ok r) :
    ∃ c rest, cs = c :: rest ∧ Starts c := by
  cases fuel with
  | zero => cases h
  | succ fuel =>
    rw [readValue.eq_def] at h
    dsimp only at h
    split at h
    case h_10 =>
      cases cs with
      | nil => cases h
      | cons c cs =>
        refine ⟨c, cs, rfl, ?_⟩
        rcases head_of_readNumber h with rfl | hdigit
        · exact ⟨by decide, by decide, by decide⟩
        · exact starts_of_isDigit hdigit
    all_goals exact ⟨_, _, rfl, by decide, by decide, by decide⟩

/-- The items of a list start with a value. -/
theorem head_of_readItems {done : List Document} {r : Document × List Char}
    (h : readItems fuel done cs = .ok r) :
    ∃ c rest, cs = c :: rest ∧ Starts c := by
  cases fuel with
  | zero => cases h
  | succ fuel =>
    rw [readItems] at h
    cases hv : readValue fuel cs with
    | error fault => rw [hv] at h; cases h
    | ok r => exact head_of_readValue hv

/-! ## Parts -/

/-- **The text of a value reads back**, and what follows it is left. -/
def ReadsBack (layout : Layout) (v : Document) : Prop :=
  ∀ ⦃fuel rest⦄, Ends rest → (render layout v).toList.length < fuel →
    readValue fuel ((render layout v).toList ++ rest) = .ok (v, rest)

/-- The parts of a container, one after the other. -/
def joined (layout : Layout) (parts : List String) : List Char :=
  (layout.between.intercalate parts).toList

theorem joined_singleton (part : String) : joined layout [part] = part.toList := by
  rw [joined, String.intercalate_singleton]

/-- Parts are joined with what stands between two of them. -/
theorem joined_cons (part next : String) (parts : List String) :
    joined layout (part :: next :: parts) =
      part.toList ++ (layout.between.toList ++ joined layout (next :: parts)) := by
  rw [joined, String.intercalate_cons_cons, String.toList_append, String.toList_append,
    List.append_assoc, joined]

theorem joined_items (v w : Document) (items : List Document) :
    joined layout (renderItems layout (v :: w :: items)) = (render layout v).toList ++
      (layout.between.toList ++ joined layout (renderItems layout (w :: items))) :=
  joined_cons _ _ _

theorem joined_fields (key : Text) (v : Document) (f : Text × Document)
    (fields : List (Text × Document)) :
    joined layout (renderFields layout ((key, v) :: f :: fields)) =
      (renderText key ++ ": " ++ render layout v).toList ++
        (layout.between.toList ++ joined layout (renderFields layout (f :: fields))) :=
  joined_cons _ _ _

theorem ends_comma : Ends [','] := by
  rintro _ ⟨⟩
  decide

theorem ends_bracket : Ends [']'] := by
  rintro _ ⟨⟩
  decide

theorem ends_brace : Ends ['\x7d'] := by
  rintro _ ⟨⟩
  decide

/-- The last item is the one with a bracket behind it. -/
theorem readItems_last {done : List Document} (hv : readValue fuel cs = .ok (v, gap ++ ']' :: rest))
    (hgap : Gap gap) :
    readItems (fuel + 1) done cs = .ok (.list (done.reverse ++ [v]), rest) := by
  have hclose : skipSpaces (gap ++ ']' :: rest) = ']' :: rest := by
    rw [skipSpaces_gap hgap, skipSpaces_cons (by decide)]
  rw [readItems, hv]
  simp only [bind, Except.bind, hclose, List.reverse_cons]
  rfl

/-- Another item follows a comma. -/
theorem readItems_more {done : List Document} {more : List Char}
    (hv : readValue fuel cs = .ok (v, ',' :: (gap ++ more))) (hgap : Gap gap)
    (hmore : skipSpaces more = more) :
    readItems (fuel + 1) done cs = readItems fuel (v :: done) more := by
  have hcomma : skipSpaces (',' :: (gap ++ more)) = ',' :: (gap ++ more) :=
    skipSpaces_cons (by decide)
  rw [readItems, hv]
  simp only [bind, Except.bind, hcomma, skipSpaces_gap hgap, hmore]

/-- **The items of a list read back** if each of them does. -/
theorem readItems_joined {items : List Document} (hitems : ∀ v ∈ items, ReadsBack layout v)
    (hne : items ≠ []) (done : List Document) (hgap : Gap gap)
    (hfuel : (joined layout (renderItems layout items)).length + 1 < fuel) :
    readItems fuel done (joined layout (renderItems layout items) ++ (gap ++ ']' :: rest)) =
      .ok (.list (done.reverse ++ items), rest) := by
  induction items generalizing done fuel with
  | nil => exact absurd rfl hne
  | cons v items ih =>
    obtain ⟨hv, hitems⟩ := List.forall_mem_cons.1 hitems
    obtain ⟨fuel, rfl⟩ : ∃ k, fuel = k + 1 := ⟨fuel - 1, by omega⟩
    cases items with
    | nil =>
      rw [renderItems, renderItems, joined_singleton] at hfuel ⊢
      exact readItems_last (hv (ends_gap hgap (ends_cons ends_bracket)) (by omega)) hgap
    | cons w items =>
      obtain ⟨gap', hgap', hbetween⟩ := exists_between layout
      rw [joined_items, hbetween] at hfuel ⊢
      simp only [List.length_append, List.length_cons] at hfuel
      have hmore := ih hitems (List.cons_ne_nil _ _) (v :: done) (show _ + 1 < fuel by omega)
      obtain ⟨c, cs, hcs, hc⟩ := head_of_readItems hmore
      have hstart : skipSpaces (c :: cs) = c :: cs := skipSpaces_cons hc.isSpace
      rw [← hcs] at hstart
      simp only [List.append_assoc, List.cons_append]
      rw [readItems_more (hv (ends_cons ends_comma) (by omega)) hgap' hstart, hmore]
      simp

/-- A member of a record, up to its value. -/
def member (key : Text) (cs : List Char) : List Char :=
  '"' :: ((String.join (key.map escapePoint)).toList ++ '"' :: ':' :: ' ' :: cs)

/-- A field is written as a key, a colon and its value. -/
theorem toList_member (key : Text) (text : String) (cs : List Char) :
    (renderText key ++ ": " ++ text).toList ++ cs = member key (text.toList ++ cs) := by
  simp [renderText, member]

/-- A member whose value is read, up to what comes after it. -/
theorem readMembers_member {key : Text} {done : List (Text × Document)} {after : List Char}
    (hkey : key.Joined) (hv : readValue fuel cs = .ok (v, after)) :
    readMembers (fuel + 1) done (member key cs) =
      match skipSpaces after with
      | '\x7d' :: rest => .ok (.record (store key v done), rest)
      | ',' :: rest => readMembers fuel (store key v done) (skipSpaces rest)
      | rest => .error (.problem .comma rest) := by
  obtain ⟨c, cs, rfl, hc⟩ := head_of_readValue hv
  have hcolon : skipSpaces (':' :: ' ' :: c :: cs) = ':' :: ' ' :: c :: cs :=
    skipSpaces_cons (by decide)
  have hstart : skipSpaces (' ' :: c :: cs) = c :: cs := skipSpaces_cons hc.isSpace
  rw [member, readMembers, readText_renderText hkey]
  simp only [bind, Except.bind, hcolon, hstart, hv]
  rfl

/-- The last member is the one with a brace behind it. -/
theorem readMembers_last {key : Text} {done : List (Text × Document)} (hkey : key.Joined)
    (hv : readValue fuel cs = .ok (v, gap ++ '\x7d' :: rest)) (hgap : Gap gap) :
    readMembers (fuel + 1) done (member key cs) = .ok (.record (store key v done), rest) := by
  have hclose : skipSpaces (gap ++ '\x7d' :: rest) = '\x7d' :: rest := by
    rw [skipSpaces_gap hgap, skipSpaces_cons (by decide)]
  rw [readMembers_member hkey hv, hclose]
  rfl

/-- Another member follows a comma. -/
theorem readMembers_more {key : Text} {done : List (Text × Document)} {more : List Char}
    (hkey : key.Joined) (hv : readValue fuel cs = .ok (v, ',' :: (gap ++ more))) (hgap : Gap gap)
    (hmore : skipSpaces more = more) :
    readMembers (fuel + 1) done (member key cs) =
      readMembers fuel (store key v done) more := by
  have hcomma : skipSpaces (',' :: (gap ++ more)) = ',' :: (gap ++ more) :=
    skipSpaces_cons (by decide)
  rw [readMembers_member hkey hv, hcomma]
  simp only [skipSpaces_gap hgap, hmore]

/-- Members start with a quote. -/
theorem skipSpaces_of_readMembers {done : List (Text × Document)} {r : Document × List Char}
    (h : readMembers fuel done cs = .ok r) : skipSpaces cs = cs := by
  cases fuel with
  | zero => cases h
  | succ fuel =>
    rw [readMembers.eq_def] at h
    dsimp only at h
    split at h
    · exact skipSpaces_cons (by decide)
    · cases h

/-- **The members of a record read back** if each of their values does, in their order: a key that
was not there before goes to the end. -/
theorem readMembers_joined {fields done : List (Text × Document)}
    (hfields : ∀ f ∈ fields, f.1.Joined ∧ ReadsBack layout f.2) (hne : fields ≠ [])
    (hkeys : ((done ++ fields).map (·.1)).Nodup) (hgap : Gap gap)
    (hfuel : (joined layout (renderFields layout fields)).length + 1 < fuel) :
    readMembers fuel done (joined layout (renderFields layout fields) ++ (gap ++ '\x7d' :: rest)) =
      .ok (.record (done ++ fields), rest) := by
  induction fields generalizing done fuel with
  | nil => exact absurd rfl hne
  | cons f fields ih =>
    obtain ⟨key, v⟩ := f
    have hkey : key.Joined := (hfields _ List.mem_cons_self).1
    have hv : ReadsBack layout v := (hfields _ List.mem_cons_self).2
    obtain ⟨fuel, rfl⟩ : ∃ k, fuel = k + 1 := ⟨fuel - 1, by omega⟩
    have hstore : store key v done = done ++ [(key, v)] := by
      refine Document.store_of_notMem fun hmem => ?_
      rw [List.map_append, List.map_cons, List.nodup_append] at hkeys
      exact hkeys.2.2 key hmem key List.mem_cons_self rfl
    cases fields with
    | nil =>
      rw [renderFields, renderFields, joined_singleton] at hfuel ⊢
      simp only [String.toList_append, List.length_append] at hfuel
      have hends : Ends (gap ++ '\x7d' :: rest) := ends_gap hgap (ends_cons ends_brace)
      rw [toList_member, readMembers_last hkey (hv hends (by omega)) hgap, hstore]
    | cons g fields =>
      obtain ⟨gap', hgap', hbetween⟩ := exists_between layout
      rw [joined_fields, hbetween] at hfuel ⊢
      simp only [String.toList_append, List.length_append, List.length_cons] at hfuel
      have hkeys' : ((done ++ [(key, v)] ++ g :: fields).map (·.1)).Nodup := by simpa using hkeys
      have hmore := ih (fun f hf => hfields f (List.mem_cons_of_mem _ hf)) (List.cons_ne_nil _ _)
        hkeys' (show _ + 1 < fuel by omega)
      have hstart := skipSpaces_of_readMembers hmore
      rw [List.append_assoc, toList_member]
      simp only [List.append_assoc, List.cons_append]
      rw [readMembers_more hkey (hv (ends_cons ends_comma) (by omega)) hgap' hstart, hstore, hmore]
      simp

/-! ## Values -/

/-- Items are read behind their bracket. -/
theorem readValue_bracket {r : Document × List Char} (hgap : Gap gap)
    (h : readItems fuel [] cs = .ok r) : readValue (fuel + 1) ('[' :: (gap ++ cs)) = .ok r := by
  obtain ⟨c, cs, rfl, hc⟩ := head_of_readItems h
  have hstart : skipSpaces (gap ++ c :: cs) = c :: cs := by
    rw [skipSpaces_gap hgap, skipSpaces_cons hc.isSpace]
  rw [readValue, hstart]
  split
  · rename_i heq
    exact absurd (List.cons.inj heq).1 hc.ne_bracket
  · exact h

/-- Members are read behind their brace. -/
theorem readValue_brace {r : Document × List Char} (hgap : Gap gap)
    (h : readMembers fuel [] cs = .ok r) :
    readValue (fuel + 1) ('\x7b' :: (gap ++ cs)) = .ok r := by
  have hstart : skipSpaces (gap ++ cs) = cs := by
    rw [skipSpaces_gap hgap, skipSpaces_of_readMembers h]
  rw [readValue, hstart]
  split
  · cases fuel <;> cases h
  · exact h

/-- Parts between brackets are on lines of their own. -/
theorem toList_enclose (opening closing part : String) (parts : List String) :
    (layout.enclose opening closing (part :: parts)).toList =
      opening.toList ++ (layout.deeper.break.toList ++
        (joined layout.deeper (part :: parts) ++ (layout.break.toList ++ closing.toList))) := by
  simp [Layout.enclose, joined]

/-- For a value that has no parts, one step is enough. -/
theorem readsBack_of_step
    (h : ∀ fuel rest, Ends rest →
      readValue (fuel + 1) ((render layout v).toList ++ rest) = .ok (v, rest)) :
    ReadsBack layout v := by
  intro fuel rest hrest hfuel
  obtain ⟨fuel, rfl⟩ : ∃ k, fuel = k + 1 := ⟨fuel - 1, by omega⟩
  exact h fuel rest hrest

/-- **A double reads back**, since its shortest decimal does. -/
theorem readsBack_float {x : Double} (hx : x.Canonical) : ReadsBack layout (.float x) := by
  refine readsBack_of_step fun fuel rest hrest => ?_
  cases x with
  | nan => simp [render, Double.render, numberStyle, readValue]
  | infinite negative =>
    cases negative <;> simp [render, Double.render, numberStyle, readValue]
  | finite negative m e => exact readValue_of_readNumber (readNumber_finite hx hrest)

/-- **A text reads back**, code point for code point. -/
theorem readsBack_str {t : Text} (ht : t.Joined) : ReadsBack layout (.str t) := by
  refine readsBack_of_step fun fuel rest _ => ?_
  simp only [render, renderText, String.toList_append, List.append_assoc]
  show readValue (fuel + 1) ('"' :: (_ ++ '"' :: rest)) = _
  rw [readValue, readText_renderText ht]
  rfl

/-- **A list reads back if its items do.** -/
theorem readsBack_list {items : List Document} (hitems : ∀ v ∈ items, ReadsBack layout.deeper v) :
    ReadsBack layout (.list items) := by
  cases items with
  | nil =>
    refine readsBack_of_step fun fuel rest _ => ?_
    simp [render, renderItems, Layout.enclose, readValue, skipSpaces, isSpace]
  | cons v items =>
    intro fuel rest _ hfuel
    obtain ⟨fuel, rfl⟩ : ∃ k, fuel = k + 1 := ⟨fuel - 1, by omega⟩
    have htext : (render layout (.list (v :: items))).toList =
        '[' :: (layout.deeper.break.toList ++
          (joined layout.deeper (renderItems layout.deeper (v :: items)) ++
            (layout.break.toList ++ [']']))) := toList_enclose _ _ _ _
    rw [htext] at hfuel ⊢
    simp only [List.length_cons, List.length_append, List.length_nil] at hfuel
    simp only [List.cons_append, List.append_assoc, List.nil_append]
    exact readValue_bracket (gap_break layout.deeper)
      (readItems_joined hitems (List.cons_ne_nil _ _) [] (gap_break layout) (by omega))

/-- **A record reads back if its values do** and no key comes twice. -/
theorem readsBack_record {fields : List (Text × Document)} (hkeys : (fields.map (·.1)).Nodup)
    (hfields : ∀ f ∈ fields, f.1.Joined ∧ ReadsBack layout.deeper f.2) :
    ReadsBack layout (.record fields) := by
  cases fields with
  | nil =>
    refine readsBack_of_step fun fuel rest _ => ?_
    simp [render, renderFields, Layout.enclose, readValue, skipSpaces, isSpace]
  | cons f fields =>
    intro fuel rest _ hfuel
    obtain ⟨fuel, rfl⟩ : ∃ k, fuel = k + 1 := ⟨fuel - 1, by omega⟩
    have htext : (render layout (.record (f :: fields))).toList =
        '\x7b' :: (layout.deeper.break.toList ++
          (joined layout.deeper (renderFields layout.deeper (f :: fields)) ++
            (layout.break.toList ++ ['\x7d']))) := toList_enclose _ _ _ _
    rw [htext] at hfuel ⊢
    simp only [List.length_cons, List.length_append, List.length_nil] at hfuel
    simp only [List.cons_append, List.append_assoc, List.nil_append]
    exact readValue_brace (gap_break layout.deeper)
      (readMembers_joined hfields (List.cons_ne_nil _ _) hkeys (gap_break layout) (by omega))

/-- **Every document that can be read reads back.** -/
theorem readsBack_of_readable (hv : v.Readable) (layout : Layout) : ReadsBack layout v := by
  induction v using Document.partsInduction generalizing layout with
  | null => exact readsBack_of_step fun fuel rest _ => by simp [render, readValue]
  | bool b => exact readsBack_of_step fun fuel rest _ => by cases b <;> simp [render, readValue]
  | int n =>
    have hdigits : digitCount n ≤ maxDigits := of_decide_eq_true hv.isWritable
    exact readsBack_of_step fun fuel rest hrest =>
      readValue_of_readNumber (readNumber_int hdigits hrest)
  | float x => exact readsBack_float hv.proper
  | str t => exact readsBack_str hv.proper
  | list items ih =>
    exact readsBack_list fun w hw => ih w hw (Document.readable_list.1 hv w hw) _
  | record fields ih =>
    obtain ⟨hkeys, hfields⟩ := Document.readable_record.1 hv
    exact readsBack_record hkeys fun f hf => ⟨(hfields f hf).1, ih f hf (hfields f hf).2 _⟩

/-! ## Documents -/

/-- **A document reads back**, with or without spaces after it. -/
theorem readDocument_render (hv : v.Readable) (layout : Layout) {text : String} (hgap : Gap gap)
    (htext : text.toList = (render layout v).toList ++ gap) : readDocument text = .ok v := by
  have hrest : Ends gap := List.append_nil gap ▸ ends_gap hgap ends_nil
  have hlength : (render layout v).toList.length < 2 * text.toList.length + 1 := by
    rw [htext, List.length_append]
    omega
  have hread := readsBack_of_readable hv layout hrest hlength
  rw [← htext] at hread
  obtain ⟨c, cs, hcs, hc⟩ := head_of_readValue hread
  have hend : skipSpaces gap = [] := by
    rw [← List.append_nil gap, skipSpaces_gap hgap]
    rfl
  rw [readDocument, readChars, hcs]
  rw [hcs] at hread
  simp only [List.head?_cons, Option.some.injEq, if_neg hc.ne_mark, skipSpaces_cons hc.isSpace,
    hread, bind, Except.bind, hend]
  rfl

/-- **A value reads back**, with or without spaces after it. -/
theorem read_render {w : Value} (hw : (Document.ofValue w).Readable) (layout : Layout)
    {text : String} (hgap : Gap gap)
    (htext : text.toList = (render layout (.ofValue w)).toList ++ gap) : read text = .ok w := by
  rw [read, readDocument_render hw layout hgap htext, Except.map, Document.toValue_ofValue]

/-! ## What is read -/

/-- A whole number is one digit or several. -/
theorem isWhole_of_readWhole {whole : List Char} (h : readWhole cs = some (whole, rest)) :
    whole ≠ [] ∧ Digits whole := by
  unfold readWhole at h
  split at h
  · cases h
    exact ⟨List.cons_ne_nil _ _, digits_replicate 1⟩
  · dsimp only at h
    split at h
    · cases h
    · rename_i hne
      cases h
      exact ⟨by simpa using hne, List.all_eq_true.1 List.all_takeWhile⟩

/-- A number that is read can be written and read again. -/
theorem readable_of_readNumber (h : readNumber cs = .ok (v, rest)) : v.Readable := by
  unfold readNumber at h
  dsimp only at h
  split at h
  · cases h
  · rename_i whole rest' hwhole
    obtain ⟨hne, hdigits⟩ := isWhole_of_readWhole hwhole
    split at h
    · split at h
      · cases h
      · rename_i hlength
        cases h
        refine ⟨trivial, decide_eq_true ?_⟩
        exact (digitCount_le hne hdigits _).trans (Nat.not_lt.1 hlength)
    · cases h
      exact ⟨Double.canonical_ofDecimal _ _ _, rfl⟩

/-- Within a bound, whatever is read can be read again, if what was read before can. -/
structure ReadsReadable (fuel : Nat) : Prop where
  value : ∀ {cs v rest}, readValue fuel cs = .ok (v, rest) → v.Readable
  items : ∀ {done cs v rest}, (Document.list done).Readable →
    readItems fuel done cs = .ok (v, rest) → v.Readable
  members : ∀ {done cs v rest}, (Document.record done).Readable →
    readMembers fuel done cs = .ok (v, rest) → v.Readable

namespace ReadsReadable

/-- A value that is read is readable, if what it holds is. -/
theorem value_succ (ih : ReadsReadable fuel) (h : readValue (fuel + 1) cs = .ok (v, rest)) :
    v.Readable := by
  have hrecord : (Document.record []).Readable := ⟨⟨List.nodup_nil, trivial⟩, rfl⟩
  have hlist : (Document.list []).Readable := ⟨trivial, rfl⟩
  rw [readValue.eq_def] at h
  dsimp only at h
  split at h
  case h_1 body =>
    cases htext : readText ('"' :: body) [] body with
    | error fault => rw [htext] at h; cases h
    | ok r =>
      rw [htext] at h
      cases h
      exact Document.readable_str (joined_of_readText htext)
  case h_2 =>
    split at h
    · cases h
      exact hrecord
    · exact ih.members hrecord h
  case h_3 =>
    split at h
    · cases h
      exact hlist
    · exact ih.items hlist h
  case h_10 => exact readable_of_readNumber h
  all_goals cases h; exact ⟨trivial, rfl⟩

/-- Items are, if those so far are. -/
theorem items_succ (ih : ReadsReadable fuel) {done : List Document}
    (hdone : (Document.list done).Readable)
    (h : readItems (fuel + 1) done cs = .ok (v, rest)) : v.Readable := by
  rw [readItems] at h
  cases hw : readValue fuel cs with
  | error fault => rw [hw] at h; cases h
  | ok r =>
    obtain ⟨w, after⟩ := r
    rw [hw] at h
    have hitems : ∀ u ∈ w :: done, u.Readable :=
      List.forall_mem_cons.2 ⟨ih.value hw, Document.readable_list.1 hdone⟩
    simp only [bind, Except.bind] at h
    split at h
    · cases h
      exact Document.readable_list.2 fun u hu => hitems u (List.mem_reverse.1 hu)
    · exact ih.items (Document.readable_list.2 hitems) h
    · cases h

/-- Members are, if those so far are: one with a key that was there takes its place. -/
theorem members_succ (ih : ReadsReadable fuel) {done : List (Text × Document)}
    (hdone : (Document.record done).Readable)
    (h : readMembers (fuel + 1) done cs = .ok (v, rest)) : v.Readable := by
  rw [readMembers.eq_def] at h
  dsimp only at h
  split at h
  case h_2 => cases h
  case h_1 body =>
    cases hkey : readText ('"' :: body) [] body with
    | error fault => rw [hkey] at h; cases h
    | ok r =>
      have hjoined := joined_of_readText hkey
      rw [hkey] at h
      simp only [bind, Except.bind] at h
      split at h
      case h_2 => cases h
      case h_1 after _ =>
        cases hw : readValue fuel (skipSpaces after) with
        | error fault => rw [hw] at h; cases h
        | ok r =>
          rw [hw] at h
          dsimp only at h
          split at h
          · cases h
            exact (ih.value hw).store hjoined hdone
          · exact ih.members ((ih.value hw).store hjoined hdone) h
          · cases h

end ReadsReadable

/-- **Every document that is read is readable.**  By induction on the bound. -/
theorem readsReadable (fuel : Nat) : ReadsReadable fuel := by
  induction fuel with
  | zero => exact ⟨by rintro _ _ _ ⟨⟩, by rintro _ _ _ _ _ ⟨⟩, by rintro _ _ _ _ _ ⟨⟩⟩
  | succ fuel ih => exact ⟨ih.value_succ, ih.items_succ, ih.members_succ⟩

/-- **What is read can be read again.** -/
theorem readable_of_readDocument {text : String} (h : readDocument text = .ok v) :
    v.Readable := by
  unfold readDocument readChars at h
  split at h
  · cases h
  · cases hread : readValue (2 * text.toList.length + 1) (skipSpaces text.toList) with
    | error fault => simp [hread, bind, Except.bind, Except.mapError] at h
    | ok r =>
      simp only [hread, bind, Except.bind] at h
      split at h
      · cases h
        exact (readsReadable _).value hread
      · cases h

end DefUse.Json
