import Mathlib.Algebra.Order.Field.Power
import Mathlib.Algebra.Order.Field.Rat
import Mathlib.Tactic.FieldSimp
import Mathlib.Tactic.Linarith
import Mathlib.Tactic.Positivity
import DefUse.Number.Double

/-!
# Proofs/Number/Rounding — the double of a quotient depends on its value alone

A quotient is rounded at the exponent at which it has 53 bits, or at the least one.  `Double.Fits`
is that condition on the value of the quotient.  At most one exponent satisfies it (`Fits.unique`),
so `exponentFor`, which finds it by counting bits, gives the same for every way to write the
quotient as a fraction.

Three laws follow.  `ofRatio_congr`: equal quotients have the same double.  `canonical_ofRatio`:
every double that rounding gives is in its normal form.  `ofRatio_of_canonical`: a quotient that is
a double already is not changed.
-/

namespace DefUse.Double

variable {num den : Nat} {e : Int}

/-- **A double is in its normal form**: a finite one has at most 53 bits, an exponent in range, and
exactly 53 bits unless its exponent is the least one. -/
def Canonical : Double → Prop
  | .finite _ m e =>
    m < 2 ^ 53 ∧ leastExponent ≤ e ∧ e ≤ greatestExponent ∧ (e = leastExponent ∨ 2 ^ 52 ≤ m)
  | .infinite _ | .nan => True

instance : DecidablePred Canonical
  | .finite _ _ _ => inferInstanceAs (Decidable (_ ∧ _))
  | .infinite _ | .nan => inferInstanceAs (Decidable True)

/-! ## The exponent of a quotient -/

/-- **A value fits an exponent** if it has 53 bits before the point there, or fewer at the least
exponent. -/
structure Fits (q : ℚ) (e : Int) : Prop where
  least_le : leastExponent ≤ e
  lt : q < 2 ^ 53 * 2 ^ e
  le : e = leastExponent ∨ 2 ^ 52 * 2 ^ e ≤ q

theorem Fits.not_lt {q : ℚ} {e e' : Int} (h : Fits q e) (h' : Fits q e') : ¬ e < e' := by
  intro hlt
  have hle : (2 : ℚ) ^ 52 * 2 ^ e' ≤ q := by
    rcases h'.le with heq | hle
    · have := h.least_le
      omega
    · exact hle
  have hstep : (2 : ℚ) ^ (e + 1) ≤ 2 ^ e' := zpow_le_zpow_right₀ (by norm_num) (by omega)
  rw [zpow_add_one₀ (by norm_num)] at hstep
  have := h.lt
  linarith

/-- **No value fits two exponents.** -/
theorem Fits.unique {q : ℚ} {e e' : Int} (h : Fits q e) (h' : Fits q e') : e = e' := by
  have := h.not_lt h'
  have := h'.not_lt h
  omega

theorem scaled_pos (hden : 0 < den) (e : Int) : 0 < (scaled num den e).2 := by
  unfold scaled
  split
  · exact hden
  · exact Nat.mul_pos hden (Nat.pow_pos (by decide))

/-- Scaling multiplies the value of a quotient by a power of two. -/
theorem cast_scaled (num : Nat) (hden : 0 < den) (e : Int) :
    ((scaled num den e).1 : ℚ) = num / den * 2 ^ (-e) * (scaled num den e).2 := by
  have hden' : (den : ℚ) ≠ 0 := by exact_mod_cast hden.ne'
  rcases lt_or_ge e 0 with he | he
  · obtain ⟨k, rfl⟩ : ∃ k : Nat, e = -k := ⟨(-e).toNat, by omega⟩
    rw [scaled, if_pos he, neg_neg, Int.toNat_natCast, zpow_natCast, Nat.pow_eq]
    push_cast
    field_simp
  · obtain ⟨k, rfl⟩ := Int.eq_ofNat_of_zero_le he
    rw [scaled, if_neg (by omega), Int.toNat_natCast, zpow_neg, zpow_natCast, Nat.pow_eq]
    push_cast
    field_simp

theorem scaled_lt_iff (num : Nat) (hden : 0 < den) (e : Int) (k : Nat) :
    (scaled num den e).1 / (scaled num den e).2 < k ↔ (num / den : ℚ) < k * 2 ^ e := by
  have hpos : (0 : ℚ) < (scaled num den e).2 := by exact_mod_cast scaled_pos hden e
  rw [Nat.div_lt_iff_lt_mul (scaled_pos hden e), ← Nat.cast_lt (α := ℚ), Nat.cast_mul,
    cast_scaled num hden, mul_lt_mul_iff_left₀ hpos, zpow_neg, mul_inv_lt_iff₀ (by positivity)]

/-- The value of a quotient lies within a factor of two of the one its bits tell. -/
theorem quotient_bounds (hnum : num ≠ 0) (hden : 0 < den) :
    (2 : ℚ) ^ ((num.log2 : Int) - den.log2 - 1) < num / den ∧
      (num / den : ℚ) < 2 ^ ((num.log2 : Int) - den.log2 + 1) := by
  have hden' : (0 : ℚ) < den := by exact_mod_cast hden
  have hnumLow : (2 : ℚ) ^ num.log2 ≤ num := by exact_mod_cast Nat.log2_self_le hnum
  have hnumHigh : (num : ℚ) < 2 ^ (num.log2 + 1) := by exact_mod_cast Nat.lt_log2_self
  have hdenLow : (2 : ℚ) ^ den.log2 ≤ den := by exact_mod_cast Nat.log2_self_le hden.ne'
  have hdenHigh : (den : ℚ) < 2 ^ (den.log2 + 1) := by exact_mod_cast Nat.lt_log2_self
  constructor
  · have hexp : (num.log2 : Int) - den.log2 - 1 = (num.log2 : Int) - (den.log2 + 1 : Nat) := by
      omega
    rw [hexp, zpow_sub₀ (by norm_num), zpow_natCast, zpow_natCast,
      div_lt_div_iff₀ (by positivity) hden']
    calc (2 : ℚ) ^ num.log2 * den < 2 ^ num.log2 * 2 ^ (den.log2 + 1) := by gcongr
      _ ≤ num * 2 ^ (den.log2 + 1) := by gcongr
  · have hexp : (num.log2 : Int) - den.log2 + 1 = ((num.log2 + 1 : Nat) : Int) - den.log2 := by
      omega
    rw [hexp, zpow_sub₀ (by norm_num), zpow_natCast, zpow_natCast,
      div_lt_div_iff₀ hden' (by positivity)]
    calc (num : ℚ) * 2 ^ den.log2 < 2 ^ (num.log2 + 1) * 2 ^ den.log2 := by gcongr
      _ ≤ 2 ^ (num.log2 + 1) * den := by gcongr

/-- **The exponent that is found fits.** -/
theorem fits_exponentFor (hnum : num ≠ 0) (hden : 0 < den) :
    Fits (num / den) (exponentFor num den) := by
  obtain ⟨hlow, hhigh⟩ := quotient_bounds hnum hden
  have hmono : ∀ {i j : Int}, i ≤ j → (2 : ℚ) ^ i ≤ 2 ^ j := fun hij =>
    zpow_le_zpow_right₀ (by norm_num) hij
  have hshift : ∀ (k : Nat) (i : Int), (2 : ℚ) ^ k * 2 ^ i = 2 ^ ((k : Int) + i) := fun k i => by
    rw [zpow_add₀ (by norm_num), zpow_natCast]
  obtain ⟨guess, hguess⟩ : ∃ guess, guess = max ((num.log2 : Int) - den.log2 - 53) leastExponent :=
    ⟨_, rfl⟩
  have hfound : exponentFor num den =
      if (scaled num den guess).1 / (scaled num den guess).2 < 2 ^ 53 then guess
      else guess + 1 := by
    rw [hguess]
    rfl
  have hfits : (scaled num den guess).1 / (scaled num den guess).2 < 2 ^ 53 ↔
      (num / den : ℚ) < 2 ^ 53 * 2 ^ guess := by
    rw [scaled_lt_iff num hden, Nat.cast_pow, Nat.cast_ofNat]
  rw [hfound]
  split
  · rename_i hlt
    refine ⟨hguess ▸ le_max_right _ _, hfits.1 hlt, ?_⟩
    rcases max_cases ((num.log2 : Int) - den.log2 - 53) leastExponent with ⟨hmax, -⟩ | ⟨hmax, -⟩
    · right
      rw [hshift, hguess, hmax]
      exact (hmono (by omega)).trans hlow.le
    · exact Or.inl (hguess.trans hmax)
  · rename_i hlt
    have hge : (2 : ℚ) ^ 53 * 2 ^ guess ≤ num / den := not_lt.1 fun h => hlt (hfits.2 h)
    rw [hshift] at hge
    -- with 53 bits or more, the guess is not the least exponent but for the highest bit
    have hclose : guess ≤ (num.log2 : Int) - den.log2 - 53 := by
      by_contra hfar
      exact absurd (hge.trans_lt hhigh) (not_lt.2 (hmono (by omega)))
    refine ⟨by omega, ?_, Or.inr ?_⟩
    · rw [hshift]
      exact hhigh.trans_le (hmono (by omega))
    · rw [hshift]
      exact (hmono (by omega)).trans hge

/-! ## Rounding to a natural number -/

theorem le_divNearest (n d : Nat) : n / d ≤ divNearest n d := by
  unfold divNearest
  dsimp only
  split_ifs <;> omega

theorem divNearest_le (n d : Nat) : divNearest n d ≤ n / d + 1 := by
  unfold divNearest
  dsimp only
  split_ifs <;> omega

theorem divNearest_mul_left {c : Nat} (hc : 0 < c) (n d : Nat) :
    divNearest (c * n) (c * d) = divNearest n d := by
  have hlt : ∀ a b : Nat, 2 * (c * a) < c * b ↔ 2 * a < b := fun a b => by
    rw [Nat.mul_left_comm, Nat.mul_lt_mul_left hc]
  have hgt : ∀ a b : Nat, c * b < 2 * (c * a) ↔ b < 2 * a := fun a b => by
    rw [Nat.mul_left_comm, Nat.mul_lt_mul_left hc]
  simp only [divNearest, Nat.mul_div_mul_left n d hc, Nat.mul_mod_mul_left, hlt, hgt]

theorem divNearest_mul_self {d : Nat} (hd : 0 < d) (m : Nat) : divNearest (m * d) d = m := by
  simp [divNearest, hd]

/-! ## Rounding to a double -/

theorem scaled_mul_left (c num den : Nat) (e : Int) :
    scaled (c * num) (c * den) e = (c * (scaled num den e).1, c * (scaled num den e).2) := by
  unfold scaled
  split <;> simp only [Nat.mul_assoc]

/-- The mantissa a quotient is rounded to at its exponent, before a carry. -/
def mantissaFor (num den : Nat) : Nat :=
  divNearest (scaled num den (exponentFor num den)).1 (scaled num den (exponentFor num den)).2

theorem ofRatio_eq (negative : Bool) (num den : Nat) :
    ofRatio negative num den =
      if num = 0 then zero negative
      else if mantissaFor num den = 2 ^ 53 then
        if greatestExponent < exponentFor num den + 1 then .infinite negative
        else .finite negative (2 ^ 52) (exponentFor num den + 1)
      else if greatestExponent < exponentFor num den then .infinite negative
      else .finite negative (mantissaFor num den) (exponentFor num den) := by
  unfold ofRatio
  split
  · rfl
  · by_cases hcarry : mantissaFor num den = 2 ^ 53
    · rw [if_pos hcarry]
      simp only [mantissaFor] at hcarry
      simp only [hcarry, Nat.pow_eq, if_true]
    · rw [if_neg hcarry]
      simp only [mantissaFor] at hcarry
      simp only [hcarry, Nat.pow_eq, if_false, mantissaFor]

theorem ofRatio_mul_left {c : Nat} (hc : 0 < c) (hden : 0 < den) (negative : Bool) (num : Nat) :
    ofRatio negative (c * num) (c * den) = ofRatio negative num den := by
  rcases Nat.eq_zero_or_pos num with rfl | hnum
  · rfl
  · have hvalue : ((c * num : Nat) : ℚ) / (c * den : Nat) = num / den := by
      push_cast
      exact mul_div_mul_left _ _ (by exact_mod_cast hc.ne')
    have hfits := fits_exponentFor (Nat.mul_pos hc hnum).ne' (Nat.mul_pos hc hden)
    rw [hvalue] at hfits
    have hexp : exponentFor (c * num) (c * den) = exponentFor num den :=
      hfits.unique (fits_exponentFor hnum.ne' hden)
    have hmantissa : mantissaFor (c * num) (c * den) = mantissaFor num den := by
      rw [mantissaFor, hexp, scaled_mul_left, divNearest_mul_left hc, mantissaFor]
    rw [ofRatio_eq, ofRatio_eq, hexp, hmantissa]
    simp [hc.ne']

/-- **Equal quotients have the same double.** -/
theorem ofRatio_congr {num' den' : Nat} (hden : 0 < den) (hden' : 0 < den')
    (h : num * den' = num' * den) (negative : Bool) :
    ofRatio negative num den = ofRatio negative num' den' := by
  rw [← ofRatio_mul_left hden' hden negative num, ← ofRatio_mul_left hden hden' negative num',
    Nat.mul_comm den' num, h, Nat.mul_comm num' den, Nat.mul_comm den' den]

/-- **Every double that rounding gives is canonical.** -/
theorem canonical_ofRatio (hden : 0 < den) (negative : Bool) (num : Nat) :
    (ofRatio negative num den).Canonical := by
  rcases Nat.eq_zero_or_pos num with rfl | hnum
  · exact (by decide : ∀ b, (zero b).Canonical) negative
  · have hfits := fits_exponentFor hnum.ne' hden
    have hlt : mantissaFor num den ≤ 2 ^ 53 := by
      have hquotient := scaled_lt_iff num hden (exponentFor num den) (2 ^ 53)
      rw [Nat.cast_pow, Nat.cast_ofNat] at hquotient
      exact (divNearest_le _ _).trans (hquotient.2 hfits.lt)
    have hle : exponentFor num den = leastExponent ∨ 2 ^ 52 ≤ mantissaFor num den := by
      refine hfits.le.imp_right fun hle => ?_
      have hquotient := scaled_lt_iff num hden (exponentFor num den) (2 ^ 52)
      rw [Nat.cast_pow, Nat.cast_ofNat] at hquotient
      exact (not_lt.1 fun h => not_lt.2 hle (hquotient.1 h)).trans (le_divNearest _ _)
    have hleast := hfits.least_le
    rw [ofRatio_eq, if_neg hnum.ne']
    split_ifs with hcarry hover hover
    · trivial
    · exact ⟨by norm_num, by omega, by omega, Or.inr le_rfl⟩
    · trivial
    · exact ⟨by omega, by omega, by omega, hle⟩

/-- **A quotient that is a double already is not changed.** -/
theorem ofRatio_of_canonical {m : Nat} {negative : Bool} (hm : m ≠ 0) (hden : 0 < den)
    (hcanonical : (Double.finite negative m e).Canonical) (h : (num / den : ℚ) = m * 2 ^ e) :
    ofRatio negative num den = .finite negative m e := by
  obtain ⟨hlt, hleast, hgreatest, hle⟩ := hcanonical
  have hden' : (0 : ℚ) < den := by exact_mod_cast hden
  have hnum : num ≠ 0 := by
    rintro rfl
    have hzero : (m : ℚ) * 2 ^ e = 0 := by rw [← h]; simp
    rcases mul_eq_zero.1 hzero with hzero | hzero
    · exact hm (by exact_mod_cast hzero)
    · exact absurd hzero (by positivity)
  have hfits : Fits (num / den) e := by
    refine ⟨hleast, ?_, hle.imp_right fun hle => ?_⟩
    · rw [h]
      gcongr
      exact_mod_cast hlt
    · rw [h]
      gcongr
      exact_mod_cast hle
  have hexp : exponentFor num den = e := (fits_exponentFor hnum hden).unique hfits
  have hscaled : (scaled num den e).1 = m * (scaled num den e).2 := by
    have hcast := cast_scaled num hden e
    rw [h, mul_assoc (m : ℚ), ← zpow_add₀ (by norm_num), add_neg_cancel, zpow_zero,
      mul_one] at hcast
    exact_mod_cast hcast
  have hmantissa : mantissaFor num den = m := by
    rw [mantissaFor, hexp, hscaled, divNearest_mul_self (scaled_pos hden e)]
  rw [ofRatio_eq, if_neg hnum, hmantissa, hexp, if_neg (by omega), if_neg (by omega)]

/-! ## Decimals -/

/-- A double with its sign replaced. -/
def signed (negative : Bool) : Double → Double
  | .finite _ m e => .finite negative m e
  | .infinite _ => .infinite negative
  | .nan => .nan

theorem ofRatio_signed (negative : Bool) (num den : Nat) :
    ofRatio negative num den = (ofRatio false num den).signed negative := by
  rw [ofRatio_eq, ofRatio_eq]
  split_ifs <;> rfl

/-- The sign of a decimal is that of its double, and nothing else of it. -/
theorem ofDecimal_signed (negative : Bool) (digits : Nat) (e : Int) :
    ofDecimal negative digits e = (ofDecimal false digits e).signed negative := by
  simp only [ofDecimal, ofRatio_signed negative]
  split_ifs <;> rfl

theorem digitCount_mul_ten {n : Nat} (hn : 0 < n) : digitCount (10 * n) = digitCount n + 1 := by
  rw [digitCount, Nat.toDigits_of_base_le (by decide) (by omega), List.length_append,
    Nat.mul_div_cancel_left n (by decide), List.length_singleton, digitCount]

/-- A decimal other than zero, as one quotient whatever the sign of its exponent. -/
theorem ofDecimal_of_pos {digits : Nat} (hdigits : 0 < digits) (negative : Bool) (e : Int) :
    ofDecimal negative digits e =
      if 400 < e + digitCount digits then .infinite negative
      else if e + digitCount digits < -400 then zero negative
      else ofRatio negative (digits * 10 ^ e.toNat) (10 ^ (-e).toNat) := by
  simp only [ofDecimal, hdigits.ne', if_false, Nat.pow_eq]
  rcases lt_or_ge e 0 with he | he
  · rw [if_pos he, Int.toNat_of_nonpos he.le, pow_zero, mul_one]
  · rw [if_neg (not_lt.2 he), Int.toNat_of_nonpos (show -e ≤ 0 by omega), pow_zero]

/-- **A trailing zero is worth a power of ten.** -/
theorem ofDecimal_mul_ten (negative : Bool) (digits : Nat) (e : Int) :
    ofDecimal negative (10 * digits) e = ofDecimal negative digits (e + 1) := by
  rcases Nat.eq_zero_or_pos digits with rfl | hdigits
  · rfl
  · have htop : e + digitCount (10 * digits) = e + 1 + digitCount digits := by
      rw [digitCount_mul_ten hdigits]
      omega
    have hsame : 10 * digits * 10 ^ e.toNat * 10 ^ (-(e + 1)).toNat =
        digits * 10 ^ (e + 1).toNat * 10 ^ (-e).toNat := by
      have hexp : 1 + e.toNat + (-(e + 1)).toNat = (e + 1).toNat + (-e).toNat := by omega
      calc 10 * digits * 10 ^ e.toNat * 10 ^ (-(e + 1)).toNat
          = digits * 10 ^ (1 + e.toNat + (-(e + 1)).toNat) := by
            rw [pow_add, pow_add, pow_one]
            simp only [Nat.mul_assoc, Nat.mul_left_comm]
        _ = digits * 10 ^ (e + 1).toNat * 10 ^ (-e).toNat := by
            rw [hexp, pow_add, Nat.mul_assoc]
    rw [ofDecimal_of_pos (Nat.mul_pos (by decide) hdigits), ofDecimal_of_pos hdigits, htop,
      ofRatio_congr (Nat.pow_pos (by decide)) (Nat.pow_pos (by decide)) hsame]

theorem ofDecimal_mul_pow (negative : Bool) (digits k : Nat) (e : Int) :
    ofDecimal negative (digits * 10 ^ k) e = ofDecimal negative digits (e + k) := by
  induction k generalizing e with
  | zero => simp
  | succ k ih =>
    rw [pow_succ', mul_left_comm, ofDecimal_mul_ten, ih]
    push_cast
    rw [add_assoc, add_comm 1]

/-- **Every double that a decimal is read as is canonical.** -/
theorem canonical_ofDecimal (negative : Bool) (digits : Nat) (e : Int) :
    (ofDecimal negative digits e).Canonical := by
  have hzero : ∀ b, (zero b).Canonical := by decide
  unfold ofDecimal
  split
  · exact hzero negative
  · dsimp only
    split_ifs
    · trivial
    · exact hzero negative
    · exact canonical_ofRatio (Nat.pow_pos (by decide)) _ _
    · exact canonical_ofRatio (by decide) _ _

theorem digitCount_le_iff {n k : Nat} (hk : 0 < k) : digitCount n ≤ k ↔ n < 10 ^ k :=
  Nat.length_toDigits_le_iff (by decide) hk

/-- The digits of a double written out in full are not too many to be read. -/
theorem digits_lt_of_canonical {m : Nat} {negative : Bool}
    (hcanonical : (Double.finite negative m e).Canonical) :
    m * 5 ^ (-e).toNat * 2 ^ e.toNat < 10 ^ (400 + (-e).toNat) := by
  obtain ⟨hlt, -, hgreatest, -⟩ := hcanonical
  have he : 53 + e.toNat ≤ 3 * 400 := by
    have : e ≤ 971 := hgreatest
    omega
  have hpow : ∀ n, 2 ^ (3 * n) ≤ 10 ^ n := fun n =>
    (pow_mul 2 3 n).le.trans (Nat.pow_le_pow_left (by decide) n)
  have hwhole : m * 2 ^ e.toNat < 10 ^ 400 := by
    calc m * 2 ^ e.toNat < 2 ^ 53 * 2 ^ e.toNat := by gcongr
      _ = 2 ^ (53 + e.toNat) := (pow_add _ _ _).symm
      _ ≤ 10 ^ 400 := (pow_le_pow_right₀ (by decide) he).trans (hpow 400)
  calc m * 5 ^ (-e).toNat * 2 ^ e.toNat = m * 2 ^ e.toNat * 5 ^ (-e).toNat :=
        Nat.mul_right_comm _ _ _
    _ < 10 ^ 400 * 5 ^ (-e).toNat := by gcongr
    _ ≤ 10 ^ 400 * 10 ^ (-e).toNat := by gcongr; decide
    _ = 10 ^ (400 + (-e).toNat) := (pow_add _ _ _).symm

/-- …and not too few. -/
theorem le_digits_of_canonical {m : Nat} {negative : Bool} (hm : m ≠ 0)
    (hcanonical : (Double.finite negative m e).Canonical) {k : Nat}
    (hk : k + 401 ≤ (-e).toNat) : 10 ^ k ≤ m * 5 ^ (-e).toNat * 2 ^ e.toNat := by
  obtain ⟨-, hleast, -⟩ := hcanonical
  have hpow : ∀ n, 2 ^ (2 * n) ≤ 5 ^ n := fun n =>
    (pow_mul 2 2 n).le.trans (Nat.pow_le_pow_left (by decide) n)
  have hk' : k ≤ 2 * 401 := by
    have : -1074 ≤ e := hleast
    omega
  calc 10 ^ k = 5 ^ k * 2 ^ k := by rw [← Nat.mul_pow]
    _ ≤ 5 ^ k * 2 ^ (2 * 401) := by gcongr; decide
    _ ≤ 5 ^ k * 5 ^ 401 := Nat.mul_le_mul_left _ (hpow 401)
    _ = 5 ^ (k + 401) := (pow_add _ _ _).symm
    _ ≤ 5 ^ (-e).toNat := by gcongr; decide
    _ ≤ m * 5 ^ (-e).toNat * 2 ^ e.toNat := by
        rw [Nat.mul_right_comm]
        exact Nat.le_mul_of_pos_left _ (Nat.mul_pos (Nat.pos_of_ne_zero hm) (by positivity))

/-- **The exact decimal of a double reads back**: its mantissa and a power of two, or of five if the
double is no whole number. -/
theorem ofDecimal_exact {m : Nat} {negative : Bool} (hm : m ≠ 0)
    (hcanonical : (Double.finite negative m e).Canonical) :
    ofDecimal negative (m * 5 ^ (-e).toNat * 2 ^ e.toNat) (min e 0) = .finite negative m e := by
  have hdigits : 0 < m * 5 ^ (-e).toNat * 2 ^ e.toNat :=
    Nat.mul_pos (Nat.mul_pos (Nat.pos_of_ne_zero hm) (by positivity)) (by positivity)
  have hneg : (-(min e 0)).toNat = (-e).toNat := by omega
  have hpos : (min e 0).toNat = 0 := by omega
  have hhigh := (digitCount_le_iff (by omega)).2 (digits_lt_of_canonical hcanonical)
  have hlow : ¬ min e 0 + digitCount (m * 5 ^ (-e).toNat * 2 ^ e.toNat) < -400 := by
    intro hshort
    have hsome : 0 < digitCount (m * 5 ^ (-e).toNat * 2 ^ e.toNat) := Nat.length_toDigits_pos
    obtain ⟨k, hk⟩ : ∃ k, (-e).toNat = k + 402 := ⟨(-e).toNat - 402, by omega⟩
    have hfew : digitCount (m * 5 ^ (-e).toNat * 2 ^ e.toNat) ≤ k + 1 := by omega
    rw [digitCount_le_iff (by omega)] at hfew
    exact absurd (le_digits_of_canonical hm hcanonical (by omega)) (not_le.2 hfew)
  rw [ofDecimal_of_pos hdigits, if_neg (by omega), if_neg hlow, hneg, hpos, pow_zero, mul_one]
  refine ofRatio_of_canonical hm (by positivity) hcanonical ?_
  rcases lt_or_ge e 0 with he | he
  · obtain ⟨k, rfl⟩ : ∃ k : Nat, e = -k := ⟨(-e).toNat, by omega⟩
    rw [neg_neg, Int.toNat_natCast, Int.toNat_of_nonpos he.le, pow_zero, mul_one, zpow_neg,
      zpow_natCast]
    have hten : (10 : ℚ) ^ k = 5 ^ k * 2 ^ k := by rw [← mul_pow]; norm_num
    push_cast
    rw [hten]
    field_simp
  · obtain ⟨k, rfl⟩ := Int.eq_ofNat_of_zero_le he
    rw [Int.toNat_natCast, Int.toNat_of_nonpos (by omega : -(k : Int) ≤ 0), zpow_natCast]
    push_cast
    simp

end DefUse.Double
