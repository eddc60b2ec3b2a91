import DefUse.Proofs.Json.RoundTrip

/-!
# Proofs/Json/Bound — the bound on reading is never met

The reading functions recurse on a number.  `readValue_eq_of_le`: from twice the length of the text
on, it does not matter which number that is, whether the text is a document or not.  So what
`readChars` answers is never that its bound was too small.

Each call takes a character at least before it comes back (`Consumes`), which pays for itself and
for the call that made it.
-/

namespace DefUse.Json

variable {fuel : Nat} {v : Document} {t : Text} {cs rest opening : List Char}

/-! ## What is read is taken off the text -/

/-- Skipping spaces does not make a text longer. -/
theorem length_skipSpaces_le (cs : List Char) : (skipSpaces cs).length ≤ cs.length :=
  (List.dropWhile_sublist isSpace).length_le

/-- What is behind the first character that is no space is shorter. -/
theorem length_of_skipSpaces {c : Char} (h : skipSpaces cs = c :: rest) :
    rest.length < cs.length := by
  have hle := length_skipSpaces_le cs
  rw [h, List.length_cons] at hle
  omega

/-- A text ends in a quote, so that what is left behind it is shorter. -/
theorem length_of_readText {done : Text} (h : readText opening done cs = .ok (t, rest)) :
    rest.length < cs.length := by
  fun_induction readText opening done cs with
  | case2 done after =>
    cases h
    exact Nat.lt_succ_self _
  | case4 | case8 | case11 =>
    rename_i ih
    have hlt := ih h
    simp only [List.length_cons]
    omega
  | _ => cases h

/-- A sign takes a character or none. -/
theorem length_splitSign_le (cs : List Char) : (splitSign cs).2.length ≤ cs.length := by
  unfold splitSign
  split <;> simp

/-- A whole number takes a digit at least. -/
theorem length_of_readWhole {whole : List Char} (h : readWhole cs = some (whole, rest)) :
    rest.length < cs.length := by
  unfold readWhole at h
  split at h
  · cases h
    exact Nat.lt_succ_self _
  · dsimp only at h
    split at h
    · cases h
    · rename_i hne
      cases h
      have hsplit := congrArg List.length (List.takeWhile_append_dropWhile (p := Char.isDigit)
        (l := cs))
      rw [List.length_append] at hsplit
      have hpos : 0 < (cs.takeWhile Char.isDigit).length :=
        List.length_pos_iff.2 (by simpa using hne)
      omega

/-- A fraction may not be there, and then nothing is taken. -/
theorem length_readFraction_le (cs : List Char) :
    (((readFraction cs).map (·.2)).getD cs).length ≤ cs.length := by
  unfold readFraction
  split
  · dsimp only
    split
    · exact Nat.le_refl _
    · exact ((List.dropWhile_sublist _).length_le).trans (Nat.le_succ _)
  · exact Nat.le_refl _

/-- Neither may an exponent be. -/
theorem length_readExponent_le (cs : List Char) :
    (((readExponent cs).map (·.2)).getD cs).length ≤ cs.length := by
  have hdigits (ds : List Char) : (ds.dropWhile Char.isDigit).length ≤ ds.length :=
    (List.dropWhile_sublist _).length_le
  unfold readExponent
  split
  · split
    · dsimp only
      split
      all_goals
        dsimp only
        split
        · exact Nat.le_refl _
        · refine (hdigits _).trans ?_
          simp only [List.length_cons]
          omega
    · exact Nat.le_refl _
  · exact Nat.le_refl _

/-- **A number takes a character at least.** -/
theorem length_of_readNumber (h : readNumber cs = .ok (v, rest)) : rest.length < cs.length := by
  unfold readNumber at h
  have hsign := length_splitSign_le cs
  dsimp only at h
  split at h
  · cases h
  · rename_i whole after hwhole
    have hlt := length_of_readWhole hwhole
    have hfraction := length_readFraction_le after
    have hexponent := length_readExponent_le (((readFraction after).map (·.2)).getD after)
    have hrest : rest = ((readExponent (((readFraction after).map (·.2)).getD after)).map
        (·.2)).getD (((readFraction after).map (·.2)).getD after) := by
      split at h
      · split at h
        · cases h
        · cases h
          rfl
      · cases h
        rfl
    rw [hrest]
    omega

/-- Within a bound, whatever is read takes a character at least. -/
structure Consumes (fuel : Nat) : Prop where
  value : ∀ {cs v rest}, readValue fuel cs = .ok (v, rest) → rest.length < cs.length
  items : ∀ {done cs v rest}, readItems fuel done cs = .ok (v, rest) → rest.length < cs.length
  members : ∀ {done cs v rest}, readMembers fuel done cs = .ok (v, rest) →
    rest.length < cs.length

namespace Consumes

/-- A value takes a character, if what it holds does: the first one, whatever the kind. -/
theorem value_succ (ih : Consumes fuel) (h : readValue (fuel + 1) cs = .ok (v, rest)) :
    rest.length < cs.length := by
  rw [readValue.eq_def] at h
  dsimp only at h
  split at h
  case h_1 body =>
    cases htext : readText ('"' :: body) [] body with
    | error fault => rw [htext] at h; cases h
    | ok r =>
      rw [htext] at h
      cases h
      exact (length_of_readText htext).trans (Nat.lt_succ_self _)
  case h_2 body =>
    have hle := length_skipSpaces_le body
    split at h
    · rename_i heq
      cases h
      exact (length_of_skipSpaces heq).trans (Nat.lt_succ_self _)
    · exact (ih.members h).trans_le (hle.trans (Nat.le_succ _))
  case h_3 body =>
    have hle := length_skipSpaces_le body
    split at h
    · rename_i heq
      cases h
      exact (length_of_skipSpaces heq).trans (Nat.lt_succ_self _)
    · exact (ih.items h).trans_le (hle.trans (Nat.le_succ _))
  case h_10 => exact length_of_readNumber h
  all_goals
    cases h
    simp only [List.length_cons]
    omega

/-- Each item takes a character, and so does what stands behind it. -/
theorem items_succ (ih : Consumes fuel) {done : List Document}
    (h : readItems (fuel + 1) done cs = .ok (v, rest)) : rest.length < cs.length := by
  rw [readItems] at h
  cases hw : readValue fuel cs with
  | error fault => rw [hw] at h; cases h
  | ok r =>
    obtain ⟨w, after⟩ := r
    have hlt := ih.value hw
    rw [hw] at h
    simp only [bind, Except.bind] at h
    split at h
    · rename_i heq
      cases h
      exact (length_of_skipSpaces heq).trans hlt
    · rename_i more heq
      have hmore := length_of_skipSpaces heq
      have hle := length_skipSpaces_le more
      have hrest := ih.items h
      omega
    · cases h

/-- So does each member. -/
theorem members_succ (ih : Consumes fuel) {done : List (Text × Document)}
    (h : readMembers (fuel + 1) done cs = .ok (v, rest)) : rest.length < cs.length := by
  rw [readMembers.eq_def] at h
  dsimp only at h
  split at h
  case h_2 => cases h
  case h_1 body =>
    cases hkey : readText ('"' :: body) [] body with
    | error fault => rw [hkey] at h; cases h
    | ok r =>
      have hlt := length_of_readText hkey
      rw [hkey] at h
      simp only [bind, Except.bind] at h
      split at h
      case h_2 => cases h
      case h_1 after hcolon =>
        have hafter := length_of_skipSpaces hcolon
        have hle := length_skipSpaces_le after
        cases hw : readValue fuel (skipSpaces after) with
        | error fault => rw [hw] at h; cases h
        | ok r =>
          have hvalue := ih.value hw
          rw [hw] at h
          dsimp only at h
          rw [List.length_cons]
          split at h
          · rename_i heq
            have hend := length_of_skipSpaces heq
            cases h
            omega
          · rename_i more heq
            have hmore := length_of_skipSpaces heq
            have hle' := length_skipSpaces_le more
            have hrest := ih.members h
            omega
          · cases h

end Consumes

/-- **Whatever is read takes a character at least.**  By induction on the bound. -/
theorem consumes (fuel : Nat) : Consumes fuel := by
  induction fuel with
  | zero => exact ⟨by rintro _ _ _ ⟨⟩, by rintro _ _ _ _ ⟨⟩, by rintro _ _ _ _ ⟨⟩⟩
  | succ fuel ih => exact ⟨ih.value_succ, ih.items_succ, ih.members_succ⟩

/-! ## A larger bound changes nothing -/

/-- At a bound that is large enough for a text, one more changes nothing. -/
structure Stable (fuel : Nat) : Prop where
  value : ∀ {cs}, 2 * cs.length + 1 ≤ fuel → readValue (fuel + 1) cs = readValue fuel cs
  items : ∀ {done cs}, 2 * cs.length + 2 ≤ fuel →
    readItems (fuel + 1) done cs = readItems fuel done cs
  members : ∀ {done cs}, 2 * cs.length + 2 ≤ fuel →
    readMembers (fuel + 1) done cs = readMembers fuel done cs

namespace Stable

/-- One more changes nothing for a value: what it holds starts a character later. -/
theorem value_succ (ih : Stable fuel) (h : 2 * cs.length + 1 ≤ fuel + 1) :
    readValue (fuel + 2) cs = readValue (fuel + 1) cs := by
  rw [readValue.eq_def, readValue.eq_def]
  dsimp only
  split <;> try rfl
  all_goals
    rename_i body
    have hle := length_skipSpaces_le body
    rw [List.length_cons] at h
    split
    · rfl
  · exact ih.members (by omega)
  · exact ih.items (by omega)

/-- One more changes nothing for items: each is read from a shorter text than the one before it. -/
theorem items_succ (ih : Stable fuel) {done : List Document} (h : 2 * cs.length + 2 ≤ fuel + 1) :
    readItems (fuel + 2) done cs = readItems (fuel + 1) done cs := by
  rw [readItems, readItems, ih.value (by omega)]
  cases hw : readValue fuel cs with
  | error fault => rfl
  | ok r =>
    obtain ⟨w, after⟩ := r
    have hlt := (consumes fuel).value hw
    simp only [bind, Except.bind]
    split
    · rfl
    · rename_i more heq
      have hmore := length_of_skipSpaces heq
      have hle := length_skipSpaces_le more
      exact ih.items (by omega)
    · rfl

/-- One more changes nothing for members, for the same reason. -/
theorem members_succ (ih : Stable fuel) {done : List (Text × Document)}
    (h : 2 * cs.length + 2 ≤ fuel + 1) :
    readMembers (fuel + 2) done cs = readMembers (fuel + 1) done cs := by
  rw [readMembers.eq_def, readMembers.eq_def]
  dsimp only
  split
  · rename_i body
    rw [List.length_cons] at h
    cases hkey : readText ('"' :: body) [] body with
    | error fault => rfl
    | ok r =>
      have hlt := length_of_readText hkey
      simp only [bind, Except.bind]
      split
      · rename_i after hcolon
        have hafter := length_of_skipSpaces hcolon
        have hle := length_skipSpaces_le after
        rw [ih.value (by omega)]
        cases hw : readValue fuel (skipSpaces after) with
        | error fault => rfl
        | ok r =>
          have hvalue := (consumes fuel).value hw
          dsimp only
          split
          · rfl
          · rename_i more heq
            have hmore := length_of_skipSpaces heq
            have hle' := length_skipSpaces_le more
            exact ih.members (by omega)
          · rfl
      · rfl
  · rfl

end Stable

/-- **A bound that is large enough may be larger.**  By induction on the bound. -/
theorem stable (fuel : Nat) : Stable fuel := by
  induction fuel with
  | zero => exact ⟨by omega, by omega, by omega⟩
  | succ fuel ih => exact ⟨ih.value_succ, ih.items_succ, ih.members_succ⟩

/-- **The bound on reading does not matter**, from twice the length of the text on. -/
theorem readValue_eq_of_le (h : 2 * cs.length + 1 ≤ fuel) :
    readValue fuel cs = readValue (2 * cs.length + 1) cs := by
  induction fuel, h using Nat.le_induction with
  | base => rfl
  | succ fuel hle ih => rw [(stable fuel).value hle, ih]

end DefUse.Json
