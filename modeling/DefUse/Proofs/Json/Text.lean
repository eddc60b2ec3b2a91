import DefUse.Json.Printer
import DefUse.Json.Reader

/-!
# Proofs/Json/Text — a text reads back from between its quotes

The writer spells each code point by its code units, one or two of them, and the reader takes each
unit for a code point (`readText_escapePoint`): a character beyond the sixteen-bit ones comes back
as two halves, which are joined in the end.  What has to be shown is that no other halves are joined
with them: a text is **joined** if no first half in it has a second one right after it, and spelling
such a text out in halves and joining them gives it back (`joinHalves_flatMap`).
-/

namespace DefUse.Json

variable {c : Char} {n : Nat} {t : Text} {opening rest : List Char}

/-! ## Halves -/

namespace Text

/-- **A text in which nothing is left to join.** -/
def Joined : Text → Prop
  | .high _ :: .low _ :: _ => False
  | _ :: rest => Joined rest
  | [] => True

/-- The text starts with the second half of a pair. -/
def StartsLow (t : Text) : Prop := ∃ n rest, t = .low n :: rest

/-- A first half is joined to nothing unless a second one follows it. -/
theorem joined_high (n : Fin 0x400) (t : Text) :
    Joined (.high n :: t) ↔ ¬ StartsLow t ∧ Joined t := by
  constructor
  · intro h
    refine ⟨?_, ?_⟩
    · rintro ⟨m, rest, rfl⟩
      exact h
    · cases t with
      | nil => trivial
      | cons p rest =>
        cases p with
        | low m => exact h.elim
        | char c => exact h
        | high m => exact h
  · rintro ⟨hlow, h⟩
    cases t with
    | nil => trivial
    | cons p rest =>
      cases p with
      | low m => exact hlow ⟨m, rest, rfl⟩
      | char c => exact h
      | high m => exact h

theorem joinHalves_char (c : Char) (t : Text) :
    joinHalves (.char c :: t) = .char c :: joinHalves t := rfl

theorem joinHalves_low (n : Fin 0x400) (t : Text) :
    joinHalves (.low n :: t) = .low n :: joinHalves t := rfl

/-- The two halves of a pair are joined. -/
theorem joinHalves_pair (n m : Fin 0x400) (t : Text) :
    joinHalves (.high n :: .low m :: t) = .char (CodePoint.pair n m) :: joinHalves t := rfl

theorem joinHalves_high (n : Fin 0x400) (h : ¬ StartsLow t) :
    joinHalves (.high n :: t) = .high n :: joinHalves t := by
  cases t with
  | nil => rfl
  | cons p rest =>
    cases p with
    | low m => exact absurd ⟨m, rest, rfl⟩ h
    | char c => rfl
    | high m => rfl

/-- Joining makes no second half come first. -/
theorem startsLow_of_joinHalves (h : StartsLow (joinHalves t)) : StartsLow t := by
  obtain ⟨n, rest, h⟩ := h
  cases t with
  | nil => cases h
  | cons p t =>
    cases p with
    | low m => exact ⟨m, t, rfl⟩
    | char c =>
      rw [joinHalves_char] at h
      cases h
    | high m =>
      by_cases hlow : StartsLow t
      · obtain ⟨l, rest, rfl⟩ := hlow
        rw [joinHalves_pair] at h
        cases h
      · rw [joinHalves_high m hlow] at h
        cases h

/-- **Joining leaves nothing to join.** -/
theorem joined_joinHalves (t : Text) : Joined (joinHalves t) := by
  fun_induction joinHalves t with
  | case1 h l rest ih => exact ih
  | case2 p rest hpair ih =>
    cases p with
    | char c => exact ih
    | low n => exact ih
    | high n =>
      refine (joined_high n _).2 ⟨fun hlow => ?_, ih⟩
      obtain ⟨m, rest', rfl⟩ := startsLow_of_joinHalves hlow
      exact hpair n m rest' rfl rfl
  | case3 => trivial

theorem joined_ofString (s : String) : Joined (ofString s) := by
  unfold ofString
  induction s.toList with
  | nil => trivial
  | cons c cs ih => exact ih

end Text

open Text

/-- A half by its number. -/
def half (n : Nat) : Fin 0x400 := ⟨n % 0x400, Nat.mod_lt n (by decide)⟩

theorem val_half (n : Nat) : (half n).val = n % 0x400 := rfl

/-- **A code point as the reader takes it in**: a character beyond the sixteen-bit ones as two
halves. -/
def halves : CodePoint → Text
  | .char c =>
    if c.toNat < 0x10000 then [.char c]
    else
      [.high (half ((c.toNat - 0x10000) / 0x400)),
       .low (half ((c.toNat - 0x10000) % 0x400))]
  | p => [p]

theorem halves_high (n : Fin 0x400) : halves (.high n) = [.high n] := rfl

theorem halves_low (n : Fin 0x400) : halves (.low n) = [.low n] := rfl

theorem pair_halves (h : ¬ c.toNat < 0x10000) :
    CodePoint.pair (half ((c.toNat - 0x10000) / 0x400))
      (half ((c.toNat - 0x10000) % 0x400)) = c := by
  have hvalid : c.toNat < 0xD800 ∨ 0xDFFF < c.toNat ∧ c.toNat < 0x110000 := c.valid
  have hsum : 0x10000 + (c.toNat - 0x10000) / 0x400 % 0x400 * 0x400 +
      (c.toNat - 0x10000) % 0x400 % 0x400 = c.toNat := by omega
  rw [CodePoint.pair, val_half, val_half, hsum, Char.ofNat_toNat]

/-- Spelling a text out makes no second half come first. -/
theorem startsLow_of_flatMap (h : StartsLow (t.flatMap halves)) : StartsLow t := by
  obtain ⟨n, rest, h⟩ := h
  cases t with
  | nil => cases h
  | cons p t =>
    cases p with
    | low m => exact ⟨m, t, rfl⟩
    | high m => cases h
    | char c =>
      rw [List.flatMap_cons, halves] at h
      split at h <;> cases h

/-- **Halves give back the text that they spell out**, if nothing is left to join in it. -/
theorem joinHalves_flatMap (ht : Joined t) : joinHalves (t.flatMap halves) = t := by
  induction t with
  | nil => rfl
  | cons p t ih =>
    rw [List.flatMap_cons]
    cases p with
    | low n => rw [halves_low, List.singleton_append, joinHalves_low, ih ht]
    | high n =>
      obtain ⟨hlow, ht⟩ := (joined_high n t).1 ht
      rw [halves_high, List.singleton_append,
        joinHalves_high n fun h => hlow (startsLow_of_flatMap h), ih ht]
    | char c =>
      rw [halves]
      split
      · rw [List.singleton_append, joinHalves_char, ih ht]
      · rename_i hc
        rw [List.cons_append, List.singleton_append, joinHalves_pair, pair_halves hc,
          ih ht]

/-! ## Escapes -/

theorem hexDigit?_digitChar : ∀ d < 16, hexDigit? d.digitChar = some d := by decide

/-- A code unit is written with four digits. -/
theorem toList_hexPadded (h : n < 0x10000) :
    (hexPadded 4 n).toList = [(n / 4096).digitChar, (n / 256 % 16).digitChar,
      (n / 16 % 16).digitChar, (n % 16).digitChar] := by
  have hbase : 1 < 16 := by decide
  simp only [hexPadded, String.toList_ofList]
  rw [Nat.toDigits_eq_if hbase]
  split
  · simp [show n / 4096 = 0 by omega, show n / 256 = 0 by omega, show n / 16 = 0 by omega,
      Nat.mod_eq_of_lt, *]
  rw [Nat.toDigits_eq_if hbase, Nat.div_div_eq_div_mul]
  split
  · simp [show n / 4096 = 0 by omega, show n / 256 = 0 by omega, Nat.mod_eq_of_lt, *]
  rw [Nat.toDigits_eq_if hbase, Nat.div_div_eq_div_mul]
  split
  · simp [show n / 4096 = 0 by omega, Nat.mod_eq_of_lt, *]
  rw [Nat.toDigits_of_lt_base (by omega)]
  simp

theorem hexUnit?_hexPadded (h : n < 0x10000) :
    hexUnit? (n / 4096).digitChar (n / 256 % 16).digitChar (n / 16 % 16).digitChar
      (n % 16).digitChar = some n := by
  simp only [hexUnit?, hexDigit?_digitChar _ (show n / 4096 < 16 by omega),
    hexDigit?_digitChar _ (Nat.mod_lt _ (show 16 > 0 by decide))]
  show some _ = some n
  congr 1
  omega

/-- A code unit that is no half is a character. -/
theorem ofUnit_toNat (c : Char) : CodePoint.ofUnit c.toNat = .char c := by
  have hvalid : c.toNat < 0xD800 ∨ 0xDFFF < c.toNat ∧ c.toNat < 0x110000 := c.valid
  rw [CodePoint.ofUnit, if_neg (by omega), if_neg (by omega), Char.ofNat_toNat]

theorem ofUnit_high (n : Fin 0x400) : CodePoint.ofUnit (0xD800 + n) = .high n := by
  rw [CodePoint.ofUnit, if_pos (by omega), Nat.add_sub_cancel_left, Fin.ofNat_val_eq_self]

theorem ofUnit_low (n : Fin 0x400) : CodePoint.ofUnit (0xDC00 + n) = .low n := by
  rw [CodePoint.ofUnit, if_neg (by omega), if_pos (by omega), Nat.add_sub_cancel_left,
    Fin.ofNat_val_eq_self]

theorem readText_unitEscape (done : Text) (h : n < 0x10000) (hrest : rest ≠ []) :
    readText opening done ((unitEscape n).toList ++ rest) =
      readText opening (.ofUnit n :: done) rest := by
  rw [unitEscape, String.toList_append, toList_hexPadded h]
  show readText opening done ('\\' :: 'u' :: _ :: _ :: _ :: _ :: rest) = _
  rw [readText, hexUnit?_hexPadded h]
  simp [hrest]

/-- A character that stands for itself. -/
theorem readText_cons (done : Text) (hquote : c ≠ '"') (hescape : c ≠ '\\')
    (hshown : ¬ c.toNat < 0x20) :
    readText opening done (c :: rest) = readText opening (.char c :: done) rest := by
  rw [readText, if_neg hshown]
  all_goals simp [hquote, hescape]

/-- The letters that stand for a character after a backslash. -/
def letters : List (Char × Char) :=
  [('"', '"'), ('\\', '\\'), ('n', '\n'), ('r', '\r'), ('t', '\t'), ('b', '\x08'),
   ('f', '\x0c')]

/-- **How a character is written**: by a letter, as it stands, or by its code units. -/
inductive Written (c : Char) : List Char → Prop
  | letter {e : Char} (h : (e, c) ∈ letters) : Written c ['\\', e]
  | shown (hquote : c ≠ '"') (hescape : c ≠ '\\') (h : 0x20 ≤ c.toNat ∧ c.toNat < 0x7F) :
      Written c [c]
  | unit (h : c.toNat < 0x10000) : Written c (unitEscape c.toNat).toList
  | pair (h : ¬ c.toNat < 0x10000) :
      Written c ((unitEscape (0xD800 + (c.toNat - 0x10000) / 0x400)).toList ++
        (unitEscape (0xDC00 + (c.toNat - 0x10000) % 0x400)).toList)

/-- **Every character is written in one of these ways.** -/
theorem written_escapeChar (c : Char) : Written c (escapeChar c).toList := by
  rw [escapeChar]
  by_cases hquote : c = '"'
  · subst hquote
    exact .letter (e := '"') (by decide)
  by_cases hescape : c = '\\'
  · subst hescape
    exact .letter (e := '\\') (by decide)
  by_cases hfeed : c = '\n'
  · subst hfeed
    exact .letter (e := 'n') (by decide)
  by_cases hreturn : c = '\r'
  · subst hreturn
    exact .letter (e := 'r') (by decide)
  by_cases htab : c = '\t'
  · subst htab
    exact .letter (e := 't') (by decide)
  dsimp only
  rw [if_neg hquote, if_neg hescape, if_neg hfeed, if_neg hreturn, if_neg htab]
  split
  · rename_i hback
    obtain rfl : c = '\x08' := Char.ext (UInt32.toNat_inj.1 hback)
    exact .letter (e := 'b') (by decide)
  split
  · rename_i hform
    obtain rfl : c = '\x0c' := Char.ext (UInt32.toNat_inj.1 hform)
    exact .letter (e := 'f') (by decide)
  split
  · rename_i hshown
    rw [String.toList_singleton]
    exact .shown hquote hescape hshown
  split
  · exact .unit ‹_›
  · rw [String.toList_append]
    exact .pair ‹_›

/-- A letter after a backslash is read as the character that it stands for. -/
theorem readText_letter (done : Text) :
    ∀ l ∈ letters, readText opening done ('\\' :: l.1 :: rest) =
      readText opening (.char l.2 :: done) rest := by
  simp only [letters, List.forall_mem_cons]
  exact ⟨rfl, rfl, rfl, rfl, rfl, rfl, rfl, List.forall_mem_nil _⟩

/-- A letter stands for a sixteen-bit character. -/
theorem toNat_of_mem_letters : ∀ l ∈ letters, l.2.toNat < 0x10000 := by decide

/-- A character that is written is read as its halves. -/
theorem readText_escapeChar (done : Text) (c : Char) (hrest : rest ≠ []) :
    readText opening done ((escapeChar c).toList ++ rest) =
      readText opening ((halves (.char c)).reverse ++ done) rest := by
  have hvalid : c.toNat < 0xD800 ∨ 0xDFFF < c.toNat ∧ c.toNat < 0x110000 := c.valid
  have hwritten := written_escapeChar c
  generalize (escapeChar c).toList = cs at hwritten ⊢
  cases hwritten with
  | letter h =>
    rw [halves, if_pos (toNat_of_mem_letters _ h)]
    exact readText_letter done _ h
  | shown hquote hescape h =>
    rw [halves, if_pos (by omega), List.singleton_append,
      readText_cons done hquote hescape (by omega)]
    rfl
  | unit h =>
    rw [halves, if_pos h, readText_unitEscape done h hrest, ofUnit_toNat]
    rfl
  | pair h =>
    have hhigh := ofUnit_high (half ((c.toNat - 0x10000) / 0x400))
    have hlow := ofUnit_low (half ((c.toNat - 0x10000) % 0x400))
    rw [val_half, Nat.mod_eq_of_lt (by omega)] at hhigh hlow
    rw [halves, if_neg h, List.append_assoc,
      readText_unitEscape done (by omega) (by simp [hrest]),
      readText_unitEscape _ (by omega) hrest, hhigh, hlow]
    rfl

/-- **A code point that is written is read as its halves.** -/
theorem readText_escapePoint (done : Text) (p : CodePoint) (hrest : rest ≠ []) :
    readText opening done ((escapePoint p).toList ++ rest) =
      readText opening ((halves p).reverse ++ done) rest := by
  cases p with
  | char c => exact readText_escapeChar done c hrest
  | high n =>
    rw [escapePoint, readText_unitEscape done (by omega) hrest, ofUnit_high]
    rfl
  | low n =>
    rw [escapePoint, readText_unitEscape done (by omega) hrest, ofUnit_low]
    rfl

/-- **A text reads back from between its quotes**, if nothing is left to join in it. -/
theorem readText_renderText (ht : Joined t) :
    readText opening [] ((String.join (t.map escapePoint)).toList ++ '"' :: rest) =
      .ok (t, rest) := by
  have hread (done t : Text) :
      readText opening done ((String.join (t.map escapePoint)).toList ++ '"' :: rest) =
        .ok (joinHalves (done.reverse ++ t.flatMap halves), rest) := by
    induction t generalizing done with
    | nil => simp [readText]
    | cons p t ih =>
      simp only [List.map_cons, String.join_cons, String.toList_append, List.append_assoc]
      rw [readText_escapePoint done p (by simp), ih]
      simp
  rw [hread, List.reverse_nil, List.nil_append, joinHalves_flatMap ht]

/-- What is read is joined. -/
theorem joined_of_readText {done : Text} {cs : List Char}
    (h : readText opening done cs = .ok (t, rest)) : Joined t := by
  fun_induction readText opening done cs with
  | case2 done after =>
    cases h
    exact joined_joinHalves _
  | _ => simp_all

end DefUse.Json
