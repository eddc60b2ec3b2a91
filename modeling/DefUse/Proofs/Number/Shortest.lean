import DefUse.Number.Shortest
import DefUse.Proofs.Number.Rounding

/-!
# Proofs/Number/Shortest — the shortest decimal of a double reads back

Every decimal that `shortest` takes into account was tested by reading it, and dropping trailing
zeros changes nothing (`ofDecimal_reduced`).  The exact value, which is the way out if no test
succeeds, reads back as well (`ofDecimal_exact`), so how many digits are tested is of no matter
here.
-/

namespace DefUse.Double

variable {m : Nat} {e : Int} {negative : Bool}

theorem ofDecimal_trim (negative : Bool) (fuel : Nat) (d : Decimal) :
    ofDecimal negative (d.trim fuel).digits (d.trim fuel).exponent =
      ofDecimal negative d.digits d.exponent := by
  induction fuel generalizing d with
  | zero => rfl
  | succ fuel ih =>
    rw [Decimal.trim]
    split
    · rename_i htrailing
      have htens : d.digits = 10 * (d.digits / 10) := by omega
      rw [ih, ← ofDecimal_mul_ten, ← htens]
    · rfl

/-- Trailing zeros do not matter. -/
theorem ofDecimal_reduced (negative : Bool) (d : Decimal) :
    ofDecimal negative d.reduced.digits d.reduced.exponent =
      ofDecimal negative d.digits d.exponent :=
  ofDecimal_trim negative _ d

theorem ofDecimal_of_firstRead? {x : Double} {near far : Nat} {d : Decimal}
    (h : firstRead? x near far e = some d) : ofDecimal false d.digits d.exponent = x := by
  unfold firstRead? at h
  split_ifs at h with hnear hfar <;> cases h <;> assumption

/-- A decimal that was taken has been read back. -/
theorem ofDecimal_of_atDigits? {x : Double} {num den n : Nat} {d : Decimal}
    (h : atDigits? x num den n = some d) : ofDecimal false d.digits d.exponent = x :=
  ofDecimal_of_firstRead? h

/-- **The shortest decimal reads back.** -/
theorem ofDecimal_shortest (hm : m ≠ 0) (hcanonical : (Double.finite negative m e).Canonical) :
    ofDecimal negative (shortest m e).digits (shortest m e).exponent = .finite negative m e := by
  have hread : ofDecimal false (shortest m e).digits (shortest m e).exponent =
      .finite false m e := by
    rw [shortest, ofDecimal_reduced]
    cases hfound : (List.range 17).findSome? fun i =>
        atDigits? (.finite false m e) (ratio m e).1 (ratio m e).2 (i + 1) with
    | none => exact ofDecimal_exact hm hcanonical
    | some d =>
      obtain ⟨i, -, hi⟩ := List.exists_of_findSome?_eq_some hfound
      exact ofDecimal_of_atDigits? hi
  rw [ofDecimal_signed, hread]
  rfl

/-- It is not zero. -/
theorem digits_shortest_pos (hm : m ≠ 0) (hcanonical : (Double.finite negative m e).Canonical) :
    0 < (shortest m e).digits := by
  rcases Nat.eq_zero_or_pos (shortest m e).digits with hzero | hpos
  · have hread := ofDecimal_shortest hm hcanonical
    rw [hzero] at hread
    cases hread
    exact absurd rfl hm
  · exact hpos

end DefUse.Double
