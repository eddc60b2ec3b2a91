import DefUse.Json.Printer
import DefUse.Json.Reader
import DefUse.Proofs.Number.Shortest

/-!
# Proofs/Json/Number — a number reads back from its text

A number that is not whole is written as digits with a point, a power, or both.  `Spelling` is such
a text cut into these parts: the reader takes it in by the parts (`readNumber_spelling`), and
whatever layout a double is given, its text is a spelling of the shortest decimal
(`spells_layout`), which reads back.
-/

namespace DefUse.Json

open Double (ofDecimal)

variable {cs ds rest more : List Char} {negative : Bool} {n : Nat} {e : Int}

/-! ## Digits -/

/-- Decimal digits only. -/
def Digits (ds : List Char) : Prop := ∀ c ∈ ds, c.isDigit = true

theorem Digits.append (h : Digits ds) (h' : Digits more) : Digits (ds ++ more) :=
  List.forall_mem_append.2 ⟨h, h'⟩

theorem digits_replicate (n : Nat) : Digits (List.replicate n '0') := by
  intro c hc
  obtain rfl := List.eq_of_mem_replicate hc
  rfl

theorem digits_toDigits (n : Nat) : Digits (Nat.toDigits 10 n) :=
  fun _ hc => Nat.isDigit_of_mem_toDigits (by decide) (by decide) hc

/-- A text that does not go on with a digit. -/
def NoDigit (rest : List Char) : Prop := ∀ c ∈ rest.head?, c.isDigit = false

theorem takeWhile_digits (h : Digits ds) (hrest : NoDigit rest) :
    (ds ++ rest).takeWhile Char.isDigit = ds := by
  rw [List.takeWhile_append_of_pos h]
  cases rest with
  | nil => simp
  | cons c rest => simp [hrest c rfl]

theorem dropWhile_digits (h : Digits ds) (hrest : NoDigit rest) :
    (ds ++ rest).dropWhile Char.isDigit = rest := by
  rw [List.dropWhile_append_of_pos h]
  cases rest with
  | nil => rfl
  | cons c rest => simp [hrest c rfl]

theorem digitsValue_eq (ds : List Char) : digitsValue ds = Nat.ofDigitChars 10 ds 0 := by
  rw [digitsValue, Nat.ofDigitChars_eq_foldl]
  simp only [Nat.mul_comm]

theorem digitsValue_toDigits (n : Nat) : digitsValue (Nat.toDigits 10 n) = n := by
  rw [digitsValue_eq, Nat.ofDigitChars_ten_toDigits]

/-- A number is below the power of ten that its digits have room for. -/
theorem digitsValue_lt (h : Digits ds) : digitsValue ds < 10 ^ ds.length := by
  induction ds using List.reverseRecOn with
  | nil => decide
  | append_singleton ds c ih =>
    obtain ⟨hds, hc⟩ := List.forall_mem_append.1 h
    have hdigit := hc c List.mem_cons_self
    simp only [Char.isDigit, Bool.and_eq_true, decide_eq_true_eq, ge_iff_le] at hdigit
    have hhigh : c.toNat ≤ 57 := hdigit.2
    have hvalue : digitsValue (ds ++ [c]) = digitsValue ds * 10 + (c.toNat - '0'.toNat) := by
      rw [digitsValue, List.foldl_append]
      rfl
    have hlt := ih hds
    have hzero : '0'.toNat = 48 := rfl
    rw [hvalue, List.length_append, List.length_singleton, Nat.pow_succ]
    omega

/-- **A whole number has no more digits than it is written with.** -/
theorem digitCount_le (hne : ds ≠ []) (h : Digits ds) (negative : Bool) :
    digitCount (if negative then -(digitsValue ds : Int) else digitsValue ds) ≤ ds.length := by
  have habs : (if negative then -(digitsValue ds : Int) else digitsValue ds).natAbs =
      digitsValue ds := by
    cases negative <;> simp
  rw [digitCount, habs, Nat.length_toDigits_le_iff (by decide) (List.length_pos_iff.2 hne)]
  exact digitsValue_lt h

/-- Zeros in front of digits do not count. -/
theorem digitsValue_replicate_append (k : Nat) (ds : List Char) :
    digitsValue (List.replicate k '0' ++ ds) = digitsValue ds := by
  rw [digitsValue_eq, Nat.ofDigitChars_append, Nat.ofDigitChars_replicate_zero, Nat.mul_zero,
    digitsValue_eq]

/-- Zeros after digits are powers of ten. -/
theorem digitsValue_append_replicate (ds : List Char) (k : Nat) :
    digitsValue (ds ++ List.replicate k '0') = digitsValue ds * 10 ^ k := by
  rw [digitsValue_eq, Nat.ofDigitChars_append, Nat.ofDigitChars_replicate_zero, Nat.mul_comm,
    digitsValue_eq]

theorem digitChar_ne_zero : ∀ n < 10, 0 < n → n.digitChar ≠ '0' := by decide

/-- The digits of a positive number do not start with a zero. -/
theorem head?_toDigits (hn : 0 < n) : (Nat.toDigits 10 n).head? ≠ some '0' := by
  induction n using Nat.strongRecOn with
  | ind n ih =>
    rw [Nat.toDigits_eq_if (by decide)]
    split
    · rename_i hlt
      exact fun h => digitChar_ne_zero n hlt hn (Option.some.inj h)
    · have hne : Nat.toDigits 10 (n / 10) ≠ [] := Nat.toDigits_ne_nil
      rw [List.head?_append_of_ne_nil _ hne]
      exact ih (n / 10) (by omega) (by omega)

/-! ## Whole parts -/

/-- The digits before a point: a lone zero, or digits that do not start with one. -/
def IsWhole (ds : List Char) : Prop := ds = ['0'] ∨ ds ≠ [] ∧ Digits ds ∧ ds.head? ≠ some '0'

theorem IsWhole.digits (h : IsWhole ds) : Digits ds := by
  rcases h with rfl | ⟨-, h, -⟩
  · exact digits_replicate 1
  · exact h

theorem IsWhole.ne_nil (h : IsWhole ds) : ds ≠ [] := by
  rcases h with rfl | ⟨h, -⟩
  · exact List.cons_ne_nil _ _
  · exact h

theorem isWhole_toDigits (n : Nat) : IsWhole (Nat.toDigits 10 n) := by
  rcases Nat.eq_zero_or_pos n with rfl | hn
  · exact Or.inl rfl
  · exact Or.inr ⟨Nat.toDigits_ne_nil, digits_toDigits n, head?_toDigits hn⟩

theorem readWhole_append (h : IsWhole ds) (hmore : NoDigit more) :
    readWhole (ds ++ more) = some (ds, more) := by
  rcases h with rfl | ⟨hne, hds, hzero⟩
  · rfl
  · unfold readWhole
    split
    · rename_i rest hcs
      cases ds with
      | nil => exact absurd rfl hne
      | cons c ds =>
        obtain ⟨rfl, -⟩ := List.cons.inj hcs
        exact absurd rfl hzero
    · simp only [takeWhile_digits hds hmore, dropWhile_digits hds hmore]
      rw [if_neg (by simpa using hne)]

/-! ## Powers -/

/-- An exponent is written as a sign and at least one digit. -/
theorem exists_exponentText (e : Int) :
    ∃ ds, (exponentText e).toList = (if e < 0 then '-' else '+') :: ds ∧ Digits ds ∧ ds ≠ [] ∧
      digitsValue ds = e.natAbs := by
  have htext : (toString e.natAbs).toList = Nat.toDigits 10 e.natAbs := Nat.toList_repr
  have hsign : (if e < 0 then "-" else "+").toList = [if e < 0 then '-' else '+'] := by
    split <;> rfl
  unfold exponentText
  dsimp only
  rw [String.toList_append, hsign]
  by_cases hshort : (toString e.natAbs).length < 2
  · refine ⟨List.replicate 1 '0' ++ Nat.toDigits 10 e.natAbs, ?_,
      (digits_replicate 1).append (digits_toDigits _), by simp, ?_⟩
    · rw [if_pos hshort, String.toList_append, htext]
      rfl
    · rw [digitsValue_replicate_append, digitsValue_toDigits]
  · refine ⟨Nat.toDigits 10 e.natAbs, ?_, digits_toDigits _, Nat.toDigits_ne_nil,
      digitsValue_toDigits _⟩
    rw [if_neg hshort, htext]
    rfl

theorem readExponent_exponentText (e : Int) (hrest : NoDigit rest) :
    readExponent ('e' :: ((exponentText e).toList ++ rest)) = some (e, rest) := by
  obtain ⟨ds, htext, hds, hne, hvalue⟩ := exists_exponentText e
  rw [htext]
  have hempty : ds.isEmpty = false := by simpa using hne
  split
  · rename_i hneg
    simp only [readExponent, List.cons_append, true_or, if_true, takeWhile_digits hds hrest,
      dropWhile_digits hds hrest, hempty, hvalue]
    simp only [Bool.false_eq_true, if_false]
    rw [show -(e.natAbs : Int) = e by omega]
  · rename_i hneg
    simp only [readExponent, List.cons_append, true_or, if_true, takeWhile_digits hds hrest,
      dropWhile_digits hds hrest, hempty, hvalue]
    simp only [Bool.false_eq_true, if_false]
    rw [show (e.natAbs : Int) = e by omega]

/-! ## Spellings -/

/-- What may follow a number: nothing that it could go on with. -/
def Ends (rest : List Char) : Prop :=
  ∀ c ∈ rest.head?, c.isDigit = false ∧ c ≠ '.' ∧ c ≠ 'e' ∧ c ≠ 'E'

theorem Ends.noDigit (h : Ends rest) : NoDigit rest := fun c hc => (h c hc).1

theorem Ends.readFraction (h : Ends rest) : readFraction rest = none := by
  unfold Json.readFraction
  split
  · exact absurd rfl (h _ rfl).2.1
  · rfl

theorem Ends.readExponent (h : Ends rest) : readExponent rest = none := by
  cases rest with
  | nil => rfl
  | cons c rest =>
    obtain ⟨-, -, hlower, hupper⟩ := h c rfl
    exact if_neg (not_or.2 ⟨hlower, hupper⟩)

/-- The sign before a number. -/
def signText (negative : Bool) : List Char := if negative then ['-'] else []

/-- **A number in its parts**: the digits before and after the point, and the power of ten. -/
structure Spelling where
  whole : List Char
  places : List Char
  power : Option Int

namespace Spelling

/-- The text of the power. -/
def powerText (s : Spelling) : List Char :=
  s.power.toList.flatMap fun e => 'e' :: (exponentText e).toList

/-- The text from the point on. -/
def tail (s : Spelling) : List Char :=
  if s.places = [] then s.powerText else '.' :: (s.places ++ s.powerText)

/-- The text of the number, without a sign. -/
def text (s : Spelling) : List Char := s.whole ++ s.tail

/-- The double that the parts stand for. -/
def real (negative : Bool) (s : Spelling) : Double :=
  ofDecimal negative (digitsValue (s.whole ++ s.places)) (s.power.getD 0 - s.places.length)

/-- The number that the parts stand for: a whole one unless there is a point or a power, which may
have too many digits. -/
def value (negative : Bool) (s : Spelling) : Except Fault Document :=
  let n : Int := digitsValue s.whole
  if s.places = [] ∧ s.power = none then
    if maxDigits < s.whole.length then .error (.tooLong s.whole.length)
    else .ok (.int (if negative then -n else n))
  else .ok (.float (s.real negative))

/-- The parts are such as the reader knows. -/
structure Valid (s : Spelling) : Prop where
  whole : IsWhole s.whole
  places : Digits s.places

theorem noDigit_powerText (s : Spelling) (hrest : Ends rest) : NoDigit (s.powerText ++ rest) := by
  unfold powerText
  cases s.power with
  | none => exact hrest.noDigit
  | some e =>
    rintro c ⟨⟩
    rfl

theorem noDigit_tail (s : Spelling) (hrest : Ends rest) : NoDigit (s.tail ++ rest) := by
  unfold tail
  split
  · exact s.noDigit_powerText hrest
  · rintro c ⟨⟩
    rfl

theorem readExponent_powerText (s : Spelling) (hrest : Ends rest) :
    ∃ found, readExponent (s.powerText ++ rest) = found ∧ found.map (·.1) = s.power ∧
      (found.map (·.2)).getD (s.powerText ++ rest) = rest := by
  unfold powerText
  cases s.power with
  | none => exact ⟨none, hrest.readExponent, rfl, rfl⟩
  | some e =>
    refine ⟨some (e, rest), ?_, rfl, rfl⟩
    rw [Option.toList_some, List.flatMap_singleton]
    exact readExponent_exponentText e hrest.noDigit

theorem readFraction_powerText (s : Spelling) (hrest : Ends rest) :
    readFraction (s.powerText ++ rest) = none := by
  unfold powerText
  cases s.power with
  | none => exact hrest.readFraction
  | some e => rfl

theorem readFraction_tail (s : Spelling) (hplaces : Digits s.places) (hrest : Ends rest) :
    ∃ found, readFraction (s.tail ++ rest) = found ∧ (found.isNone = true ↔ s.places = []) ∧
      (found.map (·.1)).getD [] = s.places ∧
      (found.map (·.2)).getD (s.tail ++ rest) = s.powerText ++ rest := by
  unfold tail
  by_cases hnone : s.places = []
  · rw [if_pos hnone]
    exact ⟨none, s.readFraction_powerText hrest, by simp [hnone], hnone.symm, rfl⟩
  · rw [if_neg hnone]
    refine ⟨some (s.places, s.powerText ++ rest), ?_, by simp [hnone], rfl, rfl⟩
    simp only [List.cons_append, List.append_assoc, readFraction,
      takeWhile_digits hplaces (s.noDigit_powerText hrest),
      dropWhile_digits hplaces (s.noDigit_powerText hrest)]
    rw [if_neg (by simpa using hnone)]

end Spelling

/-! ## Reading numbers -/

/-- The sign of a number is told from its first digit. -/
theorem splitSign_append (negative : Bool) (hds : IsWhole ds) :
    splitSign (signText negative ++ (ds ++ more)) = (negative, ds ++ more) := by
  cases negative with
  | true => rfl
  | false =>
    obtain ⟨c, cs, rfl⟩ := List.exists_cons_of_ne_nil hds.ne_nil
    have hdigit : c.isDigit = true := hds.digits c List.mem_cons_self
    unfold splitSign
    split
    · rename_i hminus
      obtain ⟨rfl, -⟩ := List.cons.inj hminus
      cases hdigit
    · rfl

/-- **A spelling is read as the number that it stands for.** -/
theorem readNumber_spelling {s : Spelling} (hs : s.Valid) (negative : Bool) (hrest : Ends rest) :
    readNumber (signText negative ++ (s.text ++ rest)) =
      (s.value negative).map fun d => (d, rest) := by
  obtain ⟨fraction, hfraction, hnone, hplaces, hmore⟩ := s.readFraction_tail hs.places hrest
  obtain ⟨exponent, hexponent, hpower, hleft⟩ := s.readExponent_powerText hrest
  unfold readNumber
  rw [Spelling.text, List.append_assoc, splitSign_append negative hs.whole]
  simp only [readWhole_append hs.whole (s.noDigit_tail hrest), hfraction, hplaces, hmore,
    hexponent, hpower, hleft]
  have hwhole : (fraction.isNone && exponent.isNone) = true ↔ s.places = [] ∧ s.power = none := by
    rw [Bool.and_eq_true, hnone, ← hpower, Option.isNone_iff_eq_none, Option.map_eq_none_iff]
  simp only [hwhole, Spelling.value, Spelling.real]
  split
  · split <;> rfl
  · rfl

/-! ## Whole numbers -/

/-- **A whole number reads back**, if it has not too many digits. -/
theorem readNumber_int {n : Int} (hdigits : digitCount n ≤ maxDigits) (hrest : Ends rest) :
    readNumber ((toString n).toList ++ rest) = .ok (.int n, rest) := by
  have hread (negative : Bool) (m : Nat) (hm : (Nat.toDigits 10 m).length ≤ maxDigits) :
      readNumber (signText negative ++ (Nat.toDigits 10 m ++ rest)) =
        .ok (.int (if negative then -m else m), rest) := by
    have := readNumber_spelling (s := ⟨Nat.toDigits 10 m, [], none⟩)
      ⟨isWhole_toDigits m, List.forall_mem_nil _⟩ negative hrest
    rw [Spelling.value, if_pos ⟨rfl, rfl⟩, if_neg (Nat.not_lt.2 hm)] at this
    simpa [Spelling.text, Spelling.tail, Spelling.powerText, digitsValue_toDigits, Except.map]
      using this
  rw [digitCount] at hdigits
  rw [Int.toString_eq_repr, Int.repr_eq_if]
  split
  · rename_i hn
    have hm : (Nat.toDigits 10 n.toNat).length ≤ maxDigits := by
      rwa [show n.toNat = n.natAbs by omega]
    rw [Nat.toList_repr]
    refine (hread false n.toNat hm).trans ?_
    simp [hn]
  · rename_i hn
    have hm : (Nat.toDigits 10 (-n).toNat).length ≤ maxDigits := by
      rwa [show (-n).toNat = n.natAbs by omega]
    rw [String.toList_append, Nat.toList_repr]
    refine (hread true (-n).toNat hm).trans ?_
    simp; omega

/-! ## Doubles -/

theorem toList_pushn (s : String) (c : Char) (n : Nat) :
    (s.pushn c n).toList = s.toList ++ List.replicate n c := by
  induction n with
  | zero => rw [List.replicate_zero, List.append_nil]; rfl
  | succ n ih =>
    have hpush : s.pushn c (n + 1) = (s.pushn c n).push c := rfl
    rw [hpush, String.toList_push, ih, List.append_assoc, ← List.replicate_succ']

/-- A text is a spelling of a decimal. -/
def Spells (text : String) (digits : Nat) (exponent : Int) : Prop :=
  ∃ s : Spelling, text.toList = s.text ∧ s.Valid ∧
    ∀ negative, s.value negative = .ok (.float (ofDecimal negative digits exponent))

namespace Spelling

variable {s : Spelling}

theorem text_of_places (h : s.places ≠ []) :
    s.text = s.whole ++ '.' :: (s.places ++ s.powerText) := by
  rw [text, tail, if_neg h]

theorem value_of_places (h : s.places ≠ []) (negative : Bool) :
    s.value negative = .ok (.float (s.real negative)) :=
  if_neg fun hs => h hs.1

theorem real_eq (negative : Bool) (hdigits : digitsValue (s.whole ++ s.places) = n)
    (he : s.power.getD 0 - s.places.length = e) : s.real negative = ofDecimal negative n e := by
  rw [real, hdigits, he]

end Spelling

/-- Part of some digits that starts where they do is a whole part again. -/
theorem isWhole_take (hn : 0 < n) {k : Nat} (hk : 0 < k) :
    IsWhole ((Nat.toDigits 10 n).take k) := by
  refine Or.inr ⟨?_, fun c hc => digits_toDigits n c (List.mem_of_mem_take hc), ?_⟩
  · simp only [ne_eq, List.take_eq_nil_iff, Nat.toDigits_ne_nil, or_false]
    omega
  · rw [List.head?_take, if_neg (by omega)]
    exact head?_toDigits hn

/-- Digits after a point, with zeros between. -/
theorem spells_before (k n : Nat) :
    Spells ("0." ++ "".pushn '0' k ++ toString n) n (-(k + (Nat.toDigits 10 n).length)) := by
  have hplaces : List.replicate k '0' ++ Nat.toDigits 10 n ≠ [] := by simp
  refine ⟨⟨['0'], List.replicate k '0' ++ Nat.toDigits 10 n, none⟩, ?_,
    ⟨Or.inl rfl, (digits_replicate k).append (digits_toDigits n)⟩, fun negative => ?_⟩
  · rw [Spelling.text_of_places hplaces]
    simp [toList_pushn, Spelling.powerText]
  · rw [Spelling.value_of_places hplaces, Spelling.real_eq negative]
    · exact (digitsValue_replicate_append (k + 1) _).trans (digitsValue_toDigits n)
    · simp only [Option.getD_none, List.length_append, List.length_replicate]
      omega

/-- Digits with zeros after them, and a point. -/
theorem spells_after (hn : 0 < n) (k : Nat) :
    Spells (toString n ++ "".pushn '0' k ++ ".0") n k := by
  have hplaces : ['0'] ≠ [] := List.cons_ne_nil _ _
  refine ⟨⟨Nat.toDigits 10 n ++ List.replicate k '0', ['0'], none⟩, ?_,
    ⟨Or.inr ⟨by simp, (digits_toDigits n).append (digits_replicate k), ?_⟩, digits_replicate 1⟩,
    fun negative => ?_⟩
  · rw [Spelling.text_of_places hplaces]
    simp [toList_pushn, Spelling.powerText]
  · rw [List.head?_append_of_ne_nil _ Nat.toDigits_ne_nil]
    exact head?_toDigits hn
  · have hdigits : digitsValue (Nat.toDigits 10 n ++ List.replicate k '0' ++ ['0']) =
        n * 10 ^ (k + 1) := by
      rw [List.append_assoc, ← List.replicate_succ', digitsValue_append_replicate,
        digitsValue_toDigits]
    rw [Spelling.value_of_places hplaces, Spelling.real_eq negative hdigits rfl,
      Double.ofDecimal_mul_pow]
    congr 2
    simp

/-- Digits with a point among them. -/
theorem spells_among (hn : 0 < n) {k : Nat} (hk : 0 < k) (hlt : k < (Nat.toDigits 10 n).length) :
    Spells (((toString n).take k).toString ++ "." ++ ((toString n).drop k).toString) n
      (k - (Nat.toDigits 10 n).length) := by
  have hplaces : (Nat.toDigits 10 n).drop k ≠ [] := by simpa using hlt
  refine ⟨⟨(Nat.toDigits 10 n).take k, (Nat.toDigits 10 n).drop k, none⟩, ?_,
    ⟨isWhole_take hn hk, fun c hc => digits_toDigits n c (List.mem_of_mem_drop hc)⟩,
    fun negative => ?_⟩
  · rw [Spelling.text_of_places hplaces]
    simp [Spelling.powerText]
  · rw [Spelling.value_of_places hplaces, Spelling.real_eq negative]
    · rw [List.take_append_drop, digitsValue_toDigits]
    · simp only [Option.getD_none, List.length_drop]
      omega

/-- A first digit, the others after a point, and a power. -/
theorem spells_power (hn : 0 < n) (e : Int) :
    let head := ((toString n).take 1).toString
    let tail := ((toString n).drop 1).toString
    Spells ((if tail.isEmpty then head else head ++ "." ++ tail) ++ "e" ++ exponentText e) n
      (e + 1 - (Nat.toDigits 10 n).length) := by
  intro head tail
  have hhead : head.toList = (Nat.toDigits 10 n).take 1 := by simp [head]
  have htail : tail.toList = (Nat.toDigits 10 n).drop 1 := by simp [tail]
  have hpos : 0 < (Nat.toDigits 10 n).length := Nat.length_toDigits_pos
  refine ⟨⟨(Nat.toDigits 10 n).take 1, (Nat.toDigits 10 n).drop 1, some e⟩, ?_,
    ⟨isWhole_take hn Nat.one_pos, fun c hc => digits_toDigits n c (List.mem_of_mem_drop hc)⟩,
    fun negative => ?_⟩
  · rw [Spelling.text, Spelling.tail, ← htail, ← hhead]
    by_cases hempty : tail.toList = []
    · have : tail = "" := String.toList_eq_nil_iff.1 hempty
      simp [this, Spelling.powerText]
    · have : tail ≠ "" := fun h => hempty (String.toList_eq_nil_iff.2 h)
      simp [this, Spelling.powerText]
  · rw [Spelling.value, if_neg (by simp), Spelling.real_eq negative]
    · rw [List.take_append_drop, digitsValue_toDigits]
    · simp only [Option.getD_some, List.length_drop]
      omega

theorem length_toString (n : Nat) : (toString n).length = (Nat.toDigits 10 n).length := by
  rw [← String.length_toList, Nat.toString_eq_repr, Nat.toList_repr]

/-- Wherever the point is placed, the text spells the digits with it there. -/
theorem spells_placePoint (hn : 0 < n) (e : Int) :
    Spells (placePoint (toString n) e) n (e - (Nat.toDigits 10 n).length) := by
  unfold placePoint
  dsimp only
  rw [length_toString]
  split
  · have h := spells_before (-e).toNat n
    rwa [show -(((-e).toNat : Int) + (Nat.toDigits 10 n).length) =
      e - (Nat.toDigits 10 n).length by omega] at h
  · split
    · have h := spells_after hn (e - (Nat.toDigits 10 n).length).toNat
      rwa [Int.toNat_of_nonneg (by omega)] at h
    · have h := spells_among hn (show 0 < e.toNat by omega) (by omega)
      rwa [Int.toNat_of_nonneg (by omega)] at h

/-- **Every layout of a positive decimal spells it.** -/
theorem spells_layout (style : NumberStyle) {d : Decimal} (hd : 0 < d.digits) :
    Spells (style.layout d) d.digits d.exponent := by
  unfold NumberStyle.layout
  dsimp only
  rw [length_toString]
  generalize hpower : d.exponent + (Nat.toDigits 10 d.digits).length - 1 = power
  have hexponent : d.exponent = power + 1 - (Nat.toDigits 10 d.digits).length := by omega
  rw [hexponent]
  split
  · exact spells_placePoint hd (power + 1)
  · exact spells_power hd power

theorem Spells.readNumber_eq {text : String} (h : Spells text n e) (negative : Bool)
    (hrest : Ends rest) :
    readNumber (((if negative then "-" else "") ++ text).toList ++ rest) =
      .ok (.float (ofDecimal negative n e), rest) := by
  obtain ⟨s, htext, hs, hvalue⟩ := h
  have hsign : (if negative = true then "-" else "").toList = signText negative := by
    cases negative <;> rfl
  rw [String.toList_append, hsign, htext, List.append_assoc, readNumber_spelling hs negative hrest,
    hvalue]
  rfl

/-- **A finite double reads back.** -/
theorem readNumber_finite {m : Nat} (h : (Double.finite negative m e).Canonical)
    (hrest : Ends rest) :
    readNumber (((Double.finite negative m e).render numberStyle).toList ++ rest) =
      .ok (.float (.finite negative m e), rest) := by
  by_cases hm : m = 0
  · subst hm
    -- a zero in normal form has the least exponent, which is what reading `0.0` gives
    obtain ⟨-, -, -, rfl | hbits⟩ := h
    · have hzero : Spells "0.0" 0 (-1) :=
        ⟨⟨['0'], ['0'], none⟩, rfl, ⟨Or.inl rfl, digits_replicate 1⟩, fun _ => rfl⟩
      exact hzero.readNumber_eq negative hrest
    · omega
  · have hdigits := Double.digits_shortest_pos hm h
    rw [Double.render, if_neg hm,
      (spells_layout numberStyle hdigits).readNumber_eq negative hrest,
      Double.ofDecimal_shortest hm h]

end DefUse.Json
