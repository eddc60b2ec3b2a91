import DefUse.Command.Run
import DefUse.Console.Screen
import DefUse.Proofs.Console.Verbatim

/-!
# Proofs/Console/Screen — what may be assumed of a console

A command puts up with any console: what cannot be shown breaks it off, and nothing else depends on
what the lines are.  To say more about what is printed, something has to be assumed.  There are
three assumptions, each a structure of its own: that escaped texts can be shown (`Console.Escapes`),
that some texts are shown as they stand (`Console.Legible`), and that a record begins with the name
of its level (`Console.Labels`).  `screen` has all three.
-/

namespace DefUse

/-! ## Assumptions -/

/-- **Texts whose marks are in order**: without any, after two brackets that mark nothing, escaped
after a text without any, or marked by the program itself. -/
inductive Console.Tame (c : Console) : String → Prop
  | plain {text : String} (h : Markup.Unmarked text.toList) : Tame c text
  | bracketed {text : String} (h : Markup.Unmarked text.toList) : Tame c ("[[ " ++ text)
  | escaped {pre : String} (h : Markup.Unmarked pre.toList) (s : String) :
      Tame c (pre ++ c.escape s)
  | path (s : String) : Tame c ("[path]" ++ c.escape s ++ "[/path]")
  | status (r : Report) : Tame c r.status

/-- **A console on which escaped texts can be shown.** -/
structure Console.Escapes (c : Console) : Prop where
  record : ∀ level text, c.Tame text → (c.record ⟨level, text⟩).toBool = true
  printed : ∀ text, c.Tame text → (c.printed [.str text]).toBool = true
  table : ∀ t : Table, (∀ row ∈ t.rows, ∀ cell ∈ row, c.Tame cell) → (c.table t).toBool = true

/-- **A console shows some texts as they stand**: on a line of their own, which for a record begins
with the name of its level. -/
structure Console.Legible (c : Console) (legible : String → Prop) : Prop where
  path : ∀ s, legible s → c.printed [.str ("[path]" ++ c.escape s ++ "[/path]")] = .ok [s]
  abort : ∀ e, legible ("❌ Verification aborted: " ++ e) →
    c.record (.message .error ("Verification aborted: " ++ c.escape e)) =
      .ok ["ERROR    ❌ Verification aborted: " ++ e]
  finding : ∀ line, legible ("⚠️  " ++ line) →
    c.record (.message .warning (c.escape line)) = .ok ["WARNING  ⚠️  " ++ line]

/-- **A console that names levels**: what it makes of a record begins with the name of the level. -/
def Console.Labels (c : Console) : Prop :=
  ∀ r ls, c.record r = .ok ls → ∃ first rest, ls = (r.level.name ++ first) :: rest

/-! ## The screen -/

theorem toBool_shownOr {α : Type} (o : Option α) : (shownOr o).toBool = o.isSome := by
  cases o <;> rfl

namespace Markup

/-- Texts without marks have none together. -/
theorem unmarked_append {s t : String} (hs : Unmarked s.toList) (ht : Unmarked t.toList) :
    Unmarked (s ++ t).toList := by
  rw [String.toList_append]
  exact fun c hc => (List.mem_append.1 hc).elim (hs c) (ht c)

/-- A number has no marks. -/
theorem unmarked_toString (n : Nat) : Unmarked (toString n).toList := by
  intro c hc
  have htext : (toString n).toList = Nat.toDigits 10 n := Nat.toList_repr
  rw [htext] at hc
  have hdigit : c.isDigit = true := Nat.isDigit_of_mem_toDigits (by decide) (by decide) hc
  constructor <;> rintro rfl <;> cases hdigit

theorem unmarked_toString_int (d : Int) : Unmarked (toString d).toList := by
  cases d with
  | ofNat n => exact unmarked_toString n
  | negSucc n =>
    have htext : toString (Int.negSucc n) = "-" ++ toString (n + 1) := rfl
    have hminus : Unmarked "-".toList := by decide
    rw [htext]
    exact unmarked_append hminus (unmarked_toString (n + 1))

/-- A text without marks can be shown. -/
theorem exists_render?_of_unmarked {s : String} (h : Unmarked s.toList) :
    ∃ text, render? s = some text := by
  have hchunks : chunks (s.toList ++ []) = s.toList.map .char ++ chunks [] :=
    chunks_unmarked_append h
  rw [List.append_nil, chunks, List.append_nil] at hchunks
  rw [render?_eq, hchunks, filterMap_live?_char]
  exact ⟨_, rfl⟩

/-- Two brackets and a blank start no tag. -/
theorem exists_render?_of_brackets {s : String} (h : Unmarked s.toList) :
    ∃ text, render? ("[[ " ++ s) = some text := by
  have hs : ("[[ " ++ s).toList = '[' :: '[' :: ' ' :: s.toList := by
    rw [String.toList_append]
    rfl
  have hinner : tagAt? ('[' :: ' ' :: s.toList) = none := rfl
  have houter : tagAt? ('[' :: '[' :: ' ' :: s.toList) = none := rfl
  have hrest : chunks ((' ' :: s.toList) ++ []) = (' ' :: s.toList).map .char ++ chunks [] :=
    chunks_unmarked_append (List.forall_mem_cons.2 ⟨by decide, h⟩)
  rw [List.append_nil, chunks, List.append_nil] at hrest
  have hchunks : chunks ("[[ " ++ s).toList = ('[' :: '[' :: ' ' :: s.toList).map .char := by
    rw [hs, chunks_of_tagAt?_none houter, chunks_of_tagAt?_none hinner, hrest]
    rfl
  rw [render?_eq, hchunks, filterMap_live?_char]
  exact ⟨_, rfl⟩

/-- **A text whose marks are in order can be shown.** -/
theorem isSome_render?_of_tame {text : String} (h : screen.Tame text) :
    (render? text).isSome = true := by
  rw [Option.isSome_iff_exists]
  cases h with
  | plain h => exact exists_render?_of_unmarked h
  | bracketed h => exact exists_render?_of_brackets h
  | escaped h s => exact exists_render?_escape h s
  | path s => exact exists_render?_path s
  | status r =>
    rw [← Option.isSome_iff_exists, Report.status]
    split
    · decide +kernel
    · split <;> decide +kernel

/-- **A text whose marks are in order can be shown.** -/
theorem isSome_lines?_of_tame {text : String} (h : screen.Tame text) :
    (lines? text).isSome = true := by
  rw [lines?, Option.isSome_map, isSome_render?_of_tame h]

end Markup

theorem isSome_mapM {α β : Type} {f : α → Option β} {as : List α}
    (h : ∀ a ∈ as, (f a).isSome = true) : (as.mapM f).isSome = true := by
  induction as with
  | nil => rfl
  | cons a as ih =>
    obtain ⟨ha, has⟩ := List.forall_mem_cons.1 h
    obtain ⟨b, hb⟩ := Option.isSome_iff_exists.1 ha
    obtain ⟨bs, hbs⟩ := Option.isSome_iff_exists.1 (ih has)
    rw [List.mapM_cons, hb, hbs]
    rfl

/-- **Escaped texts can be shown on the screen.** -/
theorem escapes_screen : screen.Escapes where
  record level text h := by
    refine (toBool_shownOr _).trans ?_
    rw [Record.lines?, Option.isSome_map, Markup.isSome_lines?_of_tame h]
  printed text h := by
    obtain ⟨shown, hshown⟩ := Option.isSome_iff_exists.1 (Markup.isSome_render?_of_tame h)
    refine (toBool_shownOr _).trans ?_
    rw [printed?, List.isEmpty_cons, if_neg Bool.false_ne_true, printedFrom?, hshown]
    rfl
  table t h := by
    have hrows : (t.rows.mapM fun row : List String => row.mapM Markup.lines?).isSome = true :=
      isSome_mapM fun row hrow => isSome_mapM fun cell hcell =>
        Markup.isSome_lines?_of_tame (h row hrow cell hcell)
    obtain ⟨rows, hrows⟩ := Option.isSome_iff_exists.1 hrows
    refine (toBool_shownOr _).trans ?_
    rw [Table.lines?, hrows]
    rfl

/-- A message that is shown as it stands is one line. -/
theorem record_of_verbatim {level : Level} {text pre s : String}
    (htext : level.sign ++ text = pre ++ Markup.escape s) (hpre : Markup.Unmarked pre.toList)
    (h : Markup.Verbatim (pre ++ s)) :
    screen.record (.message level text) = .ok [padRight 8 level.name ++ " " ++ (pre ++ s)] := by
  have hlast : Markup.EndsPlain s.toList := by
    have hwhole := h.endsPlain
    rw [String.toList_append] at hwhole
    exact hwhole.of_append _
  have hrender : Markup.render? (level.sign ++ text) = some (pre ++ s) := by
    rw [htext]
    exact Markup.render?_escape hpre h.plainly hlast
  have hlines : (Record.message level text).lines? =
      some [padRight 8 level.name ++ " " ++ (pre ++ s)] := by
    rw [Record.lines?, Record.message, Markup.lines?_of_render? hrender h.plainly]
    rfl
  exact congrArg shownOr hlines

/-- **Verbatim texts are shown as they stand on the screen.** -/
theorem legible_screen : screen.Legible Markup.Verbatim where
  path s h := by
    have hbreak : '\n' ∉ s.toList := fun hc => (h.plainly.kept _ hc).1 rfl
    have htab : '\t' ∉ s.toList := fun hc => (h.plainly.kept _ hc).2.1 rfl
    have hprinted : printed? [.str ("[path]" ++ Markup.escape s ++ "[/path]")] = some [s] := by
      rw [printed?, List.isEmpty_cons, if_neg Bool.false_ne_true, printedFrom?, h.render?_path]
      change some (joinedLines [s]) = _
      rw [joinedLines]
      · rw [show " ".intercalate [s] = s from rfl, splitAt_of_notMem hbreak, List.map_singleton,
          expandTabsFrom_of_notMem htab, String.ofList_toList]
      · exact List.cons_ne_nil _ _
    exact congrArg shownOr hprinted
  abort e h := by
    have htext : Level.error.sign ++ ("Verification aborted: " ++ Markup.escape e) =
        "❌ Verification aborted: " ++ Markup.escape e := by
      rw [← String.append_assoc, show Level.error.sign ++ "Verification aborted: " =
        "❌ Verification aborted: " by decide]
    have hhead : padRight 8 Level.error.name ++ " " ++ "❌ Verification aborted: " =
        "ERROR    ❌ Verification aborted: " := by decide +kernel
    refine (record_of_verbatim htext (by decide) h).trans ?_
    rw [← String.append_assoc, hhead]
  finding line h := by
    have hhead : padRight 8 Level.warning.name ++ " " ++ "⚠️  " = "WARNING  ⚠️  " := by
      decide +kernel
    refine (record_of_verbatim rfl (by decide) h).trans ?_
    rw [← String.append_assoc]
    exact congrArg (fun head => Except.ok [head ++ line]) hhead

/-- A text has a line at least. -/
theorem splitAt_ne_nil (sep : Char) (cs : List Char) : splitAt sep cs ≠ [] := by
  cases cs with
  | nil => exact List.cons_ne_nil _ _
  | cons c cs =>
    rw [splitAt]
    split
    · exact List.cons_ne_nil _ _
    · split <;> exact List.cons_ne_nil _ _

/-- **Records begin with their levels on the screen.** -/
theorem labels_screen : screen.Labels := by
  intro r ls h
  have hlines : r.lines? = some ls := by
    change shownOr r.lines? = .ok ls at h
    cases hr : r.lines? with
    | none => rw [hr] at h; cases h
    | some ls' => rw [hr] at h; exact congrArg some (Except.ok.inj h)
  rw [Record.lines?, Markup.lines?, Option.map_map] at hlines
  obtain ⟨text, -, rfl⟩ := Option.map_eq_some_iff.1 hlines
  rw [Function.comp_apply]
  cases hpieces : splitAt '\n' text.toList with
  | nil => exact absurd hpieces (splitAt_ne_nil _ _)
  | cons piece pieces =>
    rw [List.map_cons, Record.heading, padRight]
    exact ⟨_, _, by rw [String.append_assoc, String.append_assoc]⟩

end DefUse
