-- SUMMARY: Reading a decimal depends on its value alone, and whatever is close enough to a double is read as it.
import Mathlib
import Statescope.Number.Decimal

/-!
# The double nearest to a decimal

A decimal is read as the double nearest to its value, however its digits and its
exponent are chosen (`Decimal.SameValue.nearest_eq_of_eq`). A value that differs from
a double by little enough is read as that double (`Binary64.Approximates.nearest_eq`).
-/

namespace Statescope

namespace Binary64

/-! ## Rounding -/

theorem roundDiv_mul_right_right (num den : Nat) {k : Nat} (hk : 0 < k) :
    roundDiv (num * k) (den * k) = roundDiv num den := by
  unfold roundDiv
  simp only [Nat.mul_div_mul_right num den hk, Nat.mul_mod_mul_right]
  have hlt : 2 * (num % den * k) < den * k ↔ 2 * (num % den) < den := by
    rw [← Nat.mul_assoc, Nat.mul_lt_mul_right hk]
  have heq : 2 * (num % den * k) = den * k ↔ 2 * (num % den) = den := by
    rw [← Nat.mul_assoc, Nat.mul_left_inj hk.ne']
  simp only [hlt, heq]

/-- What is less than half away from a whole number is rounded to it. -/
theorem roundDiv_eq {num den n : Nat} (hlow : 2 * (n * den) < 2 * num + den)
    (hhigh : 2 * num < 2 * (n * den) + den) : roundDiv num den = n := by
  have hden : 0 < den := by omega
  have hdiv := Nat.div_add_mod num den
  have hmod := Nat.mod_lt num hden
  rw [Nat.mul_comm] at hdiv
  unfold roundDiv
  simp only
  rcases Nat.lt_trichotomy (num / den) n with h | h | h
  · -- The quotient is one less, and the remainder more than half.
    have hstep : num / den * den + den ≤ n * den := by
      rw [← Nat.succ_mul]
      exact Nat.mul_le_mul_right den h
    have hnext : num / den + 1 = n := by
      by_contra hne
      have : (num / den + 2) * den ≤ n * den := Nat.mul_le_mul_right den (by omega)
      rw [Nat.add_mul] at this
      omega
    rw [if_neg (by omega), hnext]
  · rw [← h] at hhigh
    rw [if_pos (.inl (by omega)), h]
  · have hstep : n * den + den ≤ num / den * den := by
      rw [← Nat.succ_mul]
      exact Nat.mul_le_mul_right den h
    omega

/-- Only the quotient counts. -/
theorem nearest_mul_right (num den : Nat) {k : Nat} (hk : 0 < k) :
    nearest (num * k) (den * k) = nearest num den := by
  unfold nearest
  simp only
  rw [Nat.mul_right_comm num k, Nat.mul_div_mul_right _ _ hk, Nat.shiftLeft_eq, Nat.shiftLeft_eq,
    Nat.mul_right_comm den k, roundDiv_mul_right_right _ _ hk]

/-! ## Values close to a double -/

theorem log2_div_eq {num den k : Nat} (hden : 0 < den) (hlow : 2 ^ k * den ≤ num)
    (hhigh : num < 2 ^ (k + 1) * den) : Nat.log2 (num / den) = k := by
  have hle : 2 ^ k ≤ num / den := (Nat.le_div_iff_mul_le hden).2 hlow
  have hpos : 0 < 2 ^ k := Nat.two_pow_pos k
  exact (Nat.log2_eq_iff (by omega)).2 ⟨hle, (Nat.div_lt_iff_lt_mul hden).2 hhigh⟩

/-- The quotient is as good as the magnitude: it differs from it by at most one part in
`2 * 10 ^ 16`, which is less than half the distance to the next magnitude. -/
structure Approximates (num den magnitude : Nat) : Prop where
  den_pos : 0 < den
  low : 19999999999999999 * (units magnitude * den) ≤ 20000000000000000 * (num * unitsPerOne)
  high : 20000000000000000 * (num * unitsPerOne) ≤ 20000000000000001 * (units magnitude * den)

theorem exists_unitsPerOne_eq : ∃ n, n = 1074 ∧ unitsPerOne = 2 ^ n := by
  have hshift (n : Nat) : 1 <<< n = 2 ^ n := Nat.one_shiftLeft n
  exact ⟨_, rfl, hshift _⟩

theorem nearest_of_shift {num den s : Nat} (h : Nat.log2 (num * unitsPerOne / den) - 52 = s) :
    nearest num den = s * 2 ^ 52 + roundDiv (num * unitsPerOne) (den * 2 ^ s) := by
  have hbit : implicitBit = 2 ^ 52 := by decide
  unfold nearest
  simp only [hbit, h, Nat.shiftLeft_eq]

/-- Magnitudes below the second binade count the units themselves. -/
theorem Approximates.nearest_eq_of_lt {num den m : Nat} (h : Approximates num den m)
    (hm : m < 2 * 2 ^ 52) : nearest num den = m := by
  obtain ⟨hden, hlow, hhigh⟩ := h
  have hunits : units m = m := by
    unfold units
    exact if_pos hm
  rw [hunits] at hlow hhigh
  have hbound : m * den ≤ (2 ^ 53 - 1) * den := Nat.mul_le_mul_right den (by omega)
  have hquotient : num * unitsPerOne / den < 2 ^ 53 := (Nat.div_lt_iff_lt_mul hden).2 (by omega)
  have hshift : Nat.log2 (num * unitsPerOne / den) - 52 = 0 := by
    by_cases hzero : num * unitsPerOne / den = 0
    · rw [hzero, Nat.log2_zero]
    · have := (Nat.log2_lt hzero).2 hquotient
      omega
  rw [nearest_of_shift hshift, Nat.zero_mul, Nat.zero_add, Nat.pow_zero, Nat.mul_one]
  exact roundDiv_eq (by omega) (by omega)

/-- Above that, a magnitude is a binade and a number of steps in it. -/
theorem units_of_binade {s f : Nat} (hf : f < 2 ^ 52) :
    units ((s + 2) * 2 ^ 52 + f) = (2 ^ 52 + f) * 2 ^ (s + 1) := by
  have hbit : implicitBit = 2 ^ 52 := by decide
  have hdiv : ((s + 2) * 2 ^ 52 + f) / 2 ^ 52 - 1 = s + 1 := by omega
  have hmod : ((s + 2) * 2 ^ 52 + f) % 2 ^ 52 = f := by omega
  rw [units, hbit, if_neg (by omega), hdiv, hmod, Nat.shiftLeft_eq]

theorem Approximates.nearest_eq_of_binade {num den s f : Nat}
    (h : Approximates num den ((s + 2) * 2 ^ 52 + f)) (hf : f < 2 ^ 52) :
    nearest num den = (s + 2) * 2 ^ 52 + f := by
  obtain ⟨hden, hlow, hhigh⟩ := h
  rw [units_of_binade hf, Nat.mul_assoc, Nat.mul_comm _ den] at hlow hhigh
  -- A step is `2 ^ (s + 1)` units here, and half of that just below the binade.
  have hhalf : den * 2 ^ (s + 1) = 2 * (den * 2 ^ s) := by
    rw [Nat.pow_succ, ← Nat.mul_assoc, Nat.mul_comm]
  have hpos : 0 < den * 2 ^ s := Nat.mul_pos hden (Nat.two_pow_pos s)
  have hmin := Nat.mul_le_mul_right (den * 2 ^ (s + 1)) (Nat.le_add_right (2 ^ 52) f)
  have hmax : (2 ^ 52 + f) * (den * 2 ^ (s + 1)) ≤ (2 ^ 53 - 1) * (den * 2 ^ (s + 1)) :=
    Nat.mul_le_mul_right _ (by omega)
  have hpow (k : Nat) : 2 ^ (k + s) * den = 2 ^ k * (den * 2 ^ s) := by
    rw [Nat.pow_add, Nat.mul_assoc, Nat.mul_comm (2 ^ s)]
  by_cases hx : 2 ^ 52 * (den * 2 ^ (s + 1)) ≤ num * unitsPerOne
  · have hlog : Nat.log2 (num * unitsPerOne / den) = 53 + s :=
      log2_div_eq hden (by rw [hpow]; omega) (by rw [Nat.add_right_comm, hpow]; omega)
    have hround : roundDiv (num * unitsPerOne) (den * 2 ^ (s + 1)) = 2 ^ 52 + f :=
      roundDiv_eq (by omega) (by omega)
    rw [nearest_of_shift (by omega : _ = s + 1), hround]
    omega
  · -- Only the first magnitude of a binade is approximated from the binade below.
    have hfirst : f = 0 := by
      by_contra hne
      have : (2 ^ 52 + 1) * (den * 2 ^ (s + 1)) ≤ (2 ^ 52 + f) * (den * 2 ^ (s + 1)) :=
        Nat.mul_le_mul_right _ (by omega)
      omega
    rw [hfirst] at hlow hhigh
    have hlog : Nat.log2 (num * unitsPerOne / den) = 52 + s :=
      log2_div_eq hden (by rw [hpow]; omega) (by rw [Nat.add_right_comm, hpow]; omega)
    have hround : roundDiv (num * unitsPerOne) (den * 2 ^ s) = 2 ^ 53 :=
      roundDiv_eq (by omega) (by omega)
    rw [nearest_of_shift (by omega : _ = s), hround]
    omega

/-- What is as good as a magnitude is read as that magnitude. -/
theorem Approximates.nearest_eq {num den m : Nat} (h : Approximates num den m) :
    nearest num den = m := by
  by_cases hm : m < 2 * 2 ^ 52
  · exact h.nearest_eq_of_lt hm
  · obtain ⟨s, f, hf, rfl⟩ : ∃ s f, f < 2 ^ 52 ∧ m = (s + 2) * 2 ^ 52 + f :=
      ⟨m / 2 ^ 52 - 2, m % 2 ^ 52, Nat.mod_lt _ (by decide), by omega⟩
    exact h.nearest_eq_of_binade hf

end Binary64

namespace Decimal

/-! ## Values -/

/-- The numerator of a decimal, as a fraction whose denominator is a power of ten. -/
def num (d : Decimal) : Nat := d.digits * 10 ^ d.exponent.toNat

def den (d : Decimal) : Nat := 10 ^ (-d.exponent).toNat

theorem den_pos (d : Decimal) : 0 < d.den := Nat.pow_pos (by decide)

/-- Two decimals that stand for one number. -/
def SameValue (d d' : Decimal) : Prop := d.num * d'.den = d'.num * d.den

theorem SameValue.refl (d : Decimal) : SameValue d d := rfl

theorem SameValue.symm {d d' : Decimal} (h : SameValue d d') : SameValue d' d := Eq.symm h

theorem SameValue.trans {d d' d'' : Decimal} (h : SameValue d d') (h' : SameValue d' d'') :
    SameValue d d'' := by
  unfold SameValue at *
  apply Nat.eq_of_mul_eq_mul_right d'.den_pos
  calc d.num * d''.den * d'.den = d.num * d'.den * d''.den := Nat.mul_right_comm _ _ _
    _ = d'.num * d''.den * d.den := by rw [h, Nat.mul_right_comm]
    _ = d''.num * d.den * d'.den := by rw [h', Nat.mul_right_comm]

theorem SameValue.nearest_eq {d d' : Decimal} (h : SameValue d d') :
    Binary64.nearest d.num d.den = Binary64.nearest d'.num d'.den := by
  rw [← Binary64.nearest_mul_right d.num d.den d'.den_pos,
    ← Binary64.nearest_mul_right d'.num d'.den d.den_pos, h, Nat.mul_comm d.den]

/-- A digit more and an exponent less. -/
theorem sameValue_mul_pow (n k : Nat) (e : Int) : SameValue ⟨n * 10 ^ k, e - k⟩ ⟨n, e⟩ := by
  have hexponent : (e - k).toNat + k + (-e).toNat = e.toNat + (-(e - k)).toNat := by omega
  simp only [SameValue, num, den]
  rw [Nat.mul_assoc, Nat.mul_assoc, Nat.mul_assoc, ← Nat.pow_add, ← Nat.pow_add, ← Nat.pow_add,
    ← hexponent]
  congr 2
  omega

/-! ## Reading -/

theorem two_pow_le_ten_pow (e : Nat) : 2 ^ (3 * e) ≤ 10 ^ e := by
  rw [Nat.pow_mul]
  exact Nat.pow_le_pow_left (by decide) e

/-- What is too large to be looked at is too large for a double. -/
theorem infinity_le_nearest {digits e : Nat} (hdigits : digits ≠ 0) (he : 400 < e) :
    Binary64.infinity ≤ Binary64.nearest (digits * 10 ^ e) 1 := by
  have hbit : Binary64.implicitBit = 2 ^ 52 := by decide
  obtain ⟨n, hn, hunits⟩ := Binary64.exists_unitsPerOne_eq
  have hlow : 2 ^ (3 * e + n) ≤ digits * 10 ^ e * Binary64.unitsPerOne := by
    rw [hunits, Nat.pow_add]
    apply Nat.mul_le_mul_right
    exact (two_pow_le_ten_pow e).trans (Nat.le_mul_of_pos_left _ (Nat.pos_of_ne_zero hdigits))
  have hne : digits * 10 ^ e * Binary64.unitsPerOne ≠ 0 :=
    Nat.pos_iff_ne_zero.1 ((Nat.two_pow_pos _).trans_le hlow)
  have hlog := (Nat.le_log2 hne).2 hlow
  unfold Binary64.nearest Binary64.infinity
  simp only [hbit, Nat.div_one]
  refine le_trans ?_ (Nat.le_add_right _ _)
  exact Nat.mul_le_mul_right _ (by omega)

/-- What is too small to be looked at is nearest to zero. -/
theorem nearest_eq_zero {digits e : Nat} (h : Nat.log2 digits + 1100 < 3 * e) :
    Binary64.nearest digits (10 ^ e) = 0 := by
  obtain ⟨n, hn, hunits⟩ := Binary64.exists_unitsPerOne_eq
  have hdigits : digits < 2 ^ (Nat.log2 digits + 1) := Nat.lt_log2_self
  have hsmall : 2 * (digits * Binary64.unitsPerOne) < 10 ^ e :=
    calc 2 * (digits * Binary64.unitsPerOne)
        < 2 * (2 ^ (Nat.log2 digits + 1) * Binary64.unitsPerOne) := by
          have : 0 < Binary64.unitsPerOne := by rw [hunits]; exact Nat.two_pow_pos _
          have := Nat.mul_lt_mul_of_pos_right hdigits this
          omega
      _ = 2 ^ (1 + (Nat.log2 digits + 1 + n)) := by
          rw [hunits, ← Nat.pow_add, Nat.pow_add 2 1]
      _ ≤ 2 ^ (3 * e) := Nat.pow_le_pow_right (by decide) (by omega)
      _ ≤ 10 ^ e := two_pow_le_ten_pow e
  have hquotient : digits * Binary64.unitsPerOne / 10 ^ e = 0 := Nat.div_eq_of_lt (by omega)
  have hround : Binary64.roundDiv (digits * Binary64.unitsPerOne) (10 ^ e) = 0 :=
    Binary64.roundDiv_eq (by omega) (by omega)
  unfold Binary64.nearest
  simp only [hquotient, Nat.log2_zero, Nat.zero_sub, Nat.shiftLeft_zero, Nat.zero_mul, hround]

/-- A decimal is nearest to a finite magnitude if its value is. -/
theorem nearest_eq_iff {d : Decimal} {m : Nat} (hfinite : m < Binary64.infinity) :
    d.nearest = m ↔ Binary64.nearest d.num d.den = m := by
  unfold Decimal.nearest num den
  split
  · rename_i hzero
    have : Binary64.nearest 0 (10 ^ (-d.exponent).toNat) = 0 := by
      simp [Binary64.nearest, Binary64.roundDiv]
    rw [hzero, Nat.zero_mul, this]
  split
  · rename_i hdigits hlarge
    have hden : (-d.exponent).toNat = 0 := by omega
    have := infinity_le_nearest hdigits (show 400 < d.exponent.toNat by omega)
    rw [hden, Nat.pow_zero]
    omega
  split
  · rename_i hpositive
    have hden : (-d.exponent).toNat = 0 := by omega
    rw [hden, Nat.pow_zero]
    rfl
  have hnum : d.exponent.toNat = 0 := by omega
  have habs : d.exponent.natAbs = (-d.exponent).toNat := by omega
  rw [hnum, habs, Nat.pow_zero, Nat.mul_one]
  split
  · rename_i hsmall
    rw [nearest_eq_zero hsmall]
  · rfl

/-- Decimals that stand for one number are read alike. -/
theorem SameValue.nearest_eq_of_eq {d d' : Decimal} {m : Nat} (h : SameValue d d')
    (hfinite : m < Binary64.infinity) (hd : d.nearest = m) : d'.nearest = m := by
  rw [nearest_eq_iff hfinite] at hd ⊢
  rw [← h.nearest_eq, hd]

end Decimal

end Statescope
