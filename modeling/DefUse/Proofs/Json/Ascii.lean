import DefUse.Proofs.Json.RoundTrip

/-!
# Proofs/Json/Ascii — the characters of a document

A document is made of the characters of ASCII that show, and of line feeds.  So its line ends are of
one kind, whatever the texts in it hold: a carriage return in a text is written by its escape.
-/

namespace DefUse.Json

variable {cs ds : List Char} {layout : Layout} {v : Document}

/-- A character that a document may have. -/
def Shown (c : Char) : Prop := c = '\n' ∨ 0x20 ≤ c.toNat ∧ c.toNat < 0x7F

instance : DecidablePred Shown := fun _ => inferInstanceAs (Decidable (_ ∨ _))

/-- All characters may stand in a document. -/
def AllShown (cs : List Char) : Prop := ∀ c ∈ cs, Shown c

instance : DecidablePred AllShown := List.decidableBAll Shown

theorem AllShown.append (h : AllShown cs) (h' : AllShown ds) : AllShown (cs ++ ds) :=
  List.forall_mem_append.2 ⟨h, h'⟩

theorem AllShown.cons {c : Char} (hc : Shown c) (h : AllShown cs) : AllShown (c :: cs) :=
  List.forall_mem_cons.2 ⟨hc, h⟩

theorem allShown_nil : AllShown [] := List.forall_mem_nil _

/-- There is no carriage return among shown characters. -/
theorem AllShown.notMem_return (h : AllShown cs) : '\r' ∉ cs := fun hmem =>
  absurd (h '\r' hmem) (by decide)

/-! ## Numbers -/

/-- Digits are shown characters. -/
theorem Digits.allShown (h : Digits ds) : AllShown ds := by
  intro c hc
  have hdigit := h c hc
  simp only [Char.isDigit, Bool.and_eq_true, decide_eq_true_eq, ge_iff_le] at hdigit
  have hlow : 48 ≤ c.toNat := hdigit.1
  have hhigh : c.toNat ≤ 57 := hdigit.2
  exact Or.inr ⟨by omega, by omega⟩

/-- An exponent has shown characters only, its sign included. -/
theorem allShown_exponentText (e : Int) : AllShown (exponentText e).toList := by
  obtain ⟨ds, htext, hds, -⟩ := exists_exponentText e
  rw [htext]
  exact .cons (by split <;> decide) hds.allShown

/-- **A decimal that is spelled out has shown characters only**: a sign, digits, a point and an
exponent. -/
theorem Spelling.Valid.allShown {s : Spelling} (hs : s.Valid) : AllShown s.text := by
  have hpower : AllShown s.powerText := by
    unfold Spelling.powerText
    cases s.power with
    | none => exact allShown_nil
    | some e =>
      rw [Option.toList_some, List.flatMap_singleton]
      exact .cons (by decide) (allShown_exponentText e)
  refine hs.whole.digits.allShown.append ?_
  unfold Spelling.tail
  split
  · exact hpower
  · exact .cons (by decide) (hs.places.allShown.append hpower)

theorem allShown_double {x : Double} (hx : x.Canonical) :
    AllShown (x.render numberStyle).toList := by
  cases x with
  | nan => decide
  | infinite negative => cases negative <;> decide
  | finite negative m e =>
    have hsign : AllShown (if negative = true then "-" else "").toList := by
      cases negative <;> decide
    rw [Double.render, String.toList_append]
    refine hsign.append ?_
    split
    · decide
    · rename_i hm
      obtain ⟨s, htext, hs, -⟩ := spells_layout numberStyle (Double.digits_shortest_pos hm hx)
      rw [htext]
      exact hs.allShown

theorem allShown_int (n : Int) : AllShown (toString n).toList := by
  rw [Int.toString_eq_repr, Int.repr_eq_if]
  split
  · rw [Nat.toList_repr]
    exact (digits_toDigits _).allShown
  · rw [String.toList_append, Nat.toList_repr]
    exact .append (by decide) (digits_toDigits _).allShown

/-! ## Texts -/

/-- A code unit is escaped by shown characters, since it has four hexadecimal digits. -/
theorem allShown_unitEscape {n : Nat} (h : n < 0x10000) : AllShown (unitEscape n).toList := by
  have hdigit : ∀ d < 16, Shown d.digitChar := by decide
  rw [unitEscape, String.toList_append, toList_hexPadded h]
  refine .append (by decide) ?_
  exact .cons (hdigit _ (by omega)) (.cons (hdigit _ (by omega)) (.cons (hdigit _ (by omega))
    (.cons (hdigit _ (by omega)) allShown_nil)))

theorem shown_of_mem_letters : ∀ l ∈ letters, Shown l.1 := by decide

/-- A character is written as it is if it is shown, and escaped otherwise. -/
theorem allShown_escapeChar (c : Char) : AllShown (escapeChar c).toList := by
  have hvalid : c.toNat < 0xD800 ∨ 0xDFFF < c.toNat ∧ c.toNat < 0x110000 := c.valid
  have hwritten := written_escapeChar c
  generalize (escapeChar c).toList = cs at hwritten ⊢
  cases hwritten with
  | letter h => exact .cons (by decide) (.cons (shown_of_mem_letters _ h) allShown_nil)
  | shown _ _ h => exact .cons (Or.inr h) allShown_nil
  | unit h => exact allShown_unitEscape h
  | pair h => exact (allShown_unitEscape (by omega)).append (allShown_unitEscape (by omega))

theorem allShown_escapePoint (p : CodePoint) : AllShown (escapePoint p).toList := by
  cases p with
  | char c => exact allShown_escapeChar c
  | high n => exact allShown_unitEscape (by omega)
  | low n => exact allShown_unitEscape (by omega)

/-- A text is written between its quotes by shown characters. -/
theorem allShown_renderText (t : Text) : AllShown (renderText t).toList := by
  rw [renderText, String.toList_append, String.toList_append, String.toList_join]
  refine .append (.append (by decide) fun c hc => ?_) (by decide)
  obtain ⟨part, hpart, hc⟩ := List.mem_flatMap.1 hc
  obtain ⟨p, -, rfl⟩ := List.mem_map.1 hpart
  exact allShown_escapePoint p c hc

/-! ## Values -/

/-- The items of a list are rendered one by one. -/
theorem renderItems_eq (items : List Document) :
    renderItems layout items = items.map (render layout) := by
  induction items with
  | nil => rfl
  | cons v items ih => rw [renderItems, ih, List.map_cons]

/-- The fields of a record are rendered one by one, each behind its key. -/
theorem renderFields_eq (fields : List (Text × Document)) :
    renderFields layout fields =
      fields.map fun f => renderText f.1 ++ ": " ++ render layout f.2 := by
  induction fields with
  | nil => rfl
  | cons f fields ih => rw [renderFields, ih, List.map_cons]

theorem allShown_break (layout : Layout) : AllShown layout.break.toList := by
  cases layout with
  | compact => exact allShown_nil
  | indented n =>
    rw [Layout.break, String.toList_append, toList_pushn]
    refine .append (by decide) (.append (by decide) fun c hc => ?_)
    rw [List.eq_of_mem_replicate hc]
    decide

theorem allShown_between (layout : Layout) : AllShown layout.between.toList := by
  cases layout with
  | compact => decide
  | indented n =>
    rw [Layout.between, String.toList_append]
    exact .append (by decide) (allShown_break _)

/-- Parts with a comma between them. -/
theorem allShown_joined : ∀ {parts : List String}, (∀ part ∈ parts, AllShown part.toList) →
    AllShown (joined layout parts)
  | [], _ => allShown_nil
  | [part], h => by
    rw [joined_singleton]
    exact h part List.mem_cons_self
  | part :: next :: parts, h => by
    rw [joined_cons]
    obtain ⟨hpart, hparts⟩ := List.forall_mem_cons.1 h
    exact hpart.append ((allShown_between layout).append (allShown_joined hparts))

/-- Parts between brackets. -/
theorem allShown_enclose {opening closing : String} {parts : List String}
    (hopening : AllShown opening.toList) (hclosing : AllShown closing.toList)
    (hparts : ∀ part ∈ parts, AllShown part.toList) :
    AllShown (layout.enclose opening closing parts).toList := by
  cases parts with
  | nil =>
    rw [Layout.enclose, String.toList_append]
    exact hopening.append hclosing
  | cons part parts =>
    rw [toList_enclose]
    exact hopening.append ((allShown_break _).append ((allShown_joined hparts).append
      ((allShown_break _).append hclosing)))

/-- **A document is written in ASCII.** -/
theorem allShown_render (hv : v.Proper) (layout : Layout) : AllShown (render layout v).toList := by
  induction v using Document.partsInduction generalizing layout with
  | null => exact (by decide : AllShown "null".toList)
  | bool b =>
    have hwords : ∀ b : Bool, AllShown (if b then "true" else "false").toList := by decide
    exact hwords b
  | int n => exact allShown_int n
  | float x => exact allShown_double hv
  | str t => exact allShown_renderText t
  | list items ih =>
    refine allShown_enclose (by decide) (by decide) fun part hpart => ?_
    rw [renderItems_eq] at hpart
    obtain ⟨w, hw, rfl⟩ := List.mem_map.1 hpart
    exact ih w hw (Document.proper_list.1 hv w hw) _
  | record fields ih =>
    refine allShown_enclose (by decide) (by decide) fun part hpart => ?_
    rw [renderFields_eq] at hpart
    obtain ⟨f, hf, rfl⟩ := List.mem_map.1 hpart
    rw [String.toList_append, String.toList_append]
    exact ((allShown_renderText f.1).append (by decide)).append
      (ih f hf ((Document.proper_record.1 hv).2 f hf).2 _)

end DefUse.Json
