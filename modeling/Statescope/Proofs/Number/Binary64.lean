-- SUMMARY: The order of positive doubles is the order of their magnitudes, and scaling keeps it.
import Mathlib
import Statescope.Number.Binary64

/-!
# The order of doubles

Doubles are compared by exponent first and by significand then. For positive ones
this is the order of the magnitudes, as numbers. Counting least units, scaling and
rounding keep it.
-/

namespace Statescope.Binary64

open Float.Model

/-! ## Scaling -/

theorem units_le_units_succ (m : Nat) : units m ≤ units (m + 1) := by
  have hbit : implicitBit = 2 ^ 52 := by decide
  unfold units
  simp only [Nat.shiftLeft_eq, hbit]
  -- In the lowest two binades the units are the magnitude itself.
  by_cases hsmall : m + 1 < 2 * 2 ^ 52
  · rw [if_pos hsmall, if_pos (by omega)]
    omega
  · rw [if_neg hsmall]
    by_cases hm : m < 2 * 2 ^ 52
    · have heq : m + 1 = 2 * 2 ^ 52 := by omega
      rw [if_pos hm, heq]
      omega
    · rw [if_neg hm]
      obtain ⟨k, hk⟩ : ∃ k, m / 2 ^ 52 = k + 2 := ⟨m / 2 ^ 52 - 2, by omega⟩
      -- Above them, the successor is in the same binade or is the first one of the next.
      by_cases hcarry : m % 2 ^ 52 + 1 = 2 ^ 52
      · have hdiv : (m + 1) / 2 ^ 52 - 1 = k + 1 + 1 := by omega
        have hmod : (m + 1) % 2 ^ 52 = 0 := by omega
        have hdiv' : m / 2 ^ 52 - 1 = k + 1 := by omega
        rw [hdiv, hmod, hdiv', Nat.pow_succ 2 (k + 1), Nat.mul_comm (2 ^ (k + 1)) 2, ← Nat.mul_assoc]
        exact Nat.mul_le_mul_right _ (by omega)
      · have hdiv : (m + 1) / 2 ^ 52 = m / 2 ^ 52 := by omega
        have hmod : (m + 1) % 2 ^ 52 = m % 2 ^ 52 + 1 := by omega
        rw [hdiv, hmod]
        exact Nat.mul_le_mul_right _ (by omega)

theorem units_monotone : Monotone units := monotone_nat_of_le_succ units_le_units_succ

theorem roundDiv_le_roundDiv {num num' den : Nat} (h : num ≤ num') :
    roundDiv num den ≤ roundDiv num' den := by
  have hq : num / den ≤ num' / den := Nat.div_le_div_right h
  -- Rounding adds at most one to a quotient, so that only equal ones need the remainders.
  rcases Nat.lt_or_eq_of_le hq with hlt | heq
  · unfold roundDiv
    simp only
    split <;> split <;> omega
  · have hr : num % den ≤ num' % den := by
      have h1 := Nat.div_add_mod num den
      have h2 := Nat.div_add_mod num' den
      rw [← heq] at h2
      omega
    unfold roundDiv
    simp only [← heq]
    split <;> split <;> omega

/-- Scaling and rounding keep the order of magnitudes. -/
theorem roundScaled_le_roundScaled {x y : Float} (h : magnitude x ≤ magnitude y) (scale : Nat) :
    roundScaled x scale ≤ roundScaled y scale :=
  roundDiv_le_roundDiv (Nat.mul_le_mul_right scale (units_monotone h))

/-! ## Comparing -/

theorem lt_iff {x y : Float} :
    x < y ↔ x.toModel.unpack.compare y.toModel.unpack = some .lt := by
  change Float.lt x y = true ↔ _
  unfold Float.lt
  simp only [decide_eq_true_iff]
  change Float.Model.lt _ _ = true ↔ _
  unfold Float.Model.lt UnpackedFloat.lt
  simp

theorem le_iff {x y : Float} :
    x ≤ y ↔ ∃ o, x.toModel.unpack.compare y.toModel.unpack = some o ∧ o.isLE = true := by
  change Float.le x y = true ↔ _
  unfold Float.le
  simp only [decide_eq_true_iff]
  change Float.Model.le _ _ = true ↔ _
  unfold Float.Model.le UnpackedFloat.le
  rw [Option.any_eq_true]

/-! ## Positive doubles -/

/-- The double is the positive number `m * 2 ^ e`. -/
def IsPositive (x : Float) (m : Nat) (e : Int) : Prop :=
  ∃ h, x.toModel.unpack = .finite .positive m e h

/-- The bits of the significand, without the implicit one. -/
def fraction (x : Float) : BitVec 52 :=
  @UnpackedFloat.unpackMantissa Format.binary64 x.toModel.toBits.toBitVec

/-- The bits of the exponent. -/
def field (x : Float) : BitVec 11 :=
  @UnpackedFloat.unpackExponent Format.binary64 x.toModel.toBits.toBitVec

/-- The magnitude puts the exponent before the significand. The least exponent is that of
the numbers without the implicit bit. -/
theorem magnitude_of_isPositive {x : Float} {m : Nat} {e : Int} (h : IsPositive x m e) :
    (magnitude x = m ∧ m < 2 ^ 52 ∧ e = -1074) ∨
    (2 ^ 52 ≤ m ∧ m < 2 ^ 53 ∧ -1074 ≤ e ∧
      magnitude x = (e + 1075).toNat * 2 ^ 52 + (m - 2 ^ 52)) := by
  obtain ⟨hm, hx⟩ := h
  unfold Float.Model.unpack UnpackedFloat.unpack at hx
  have hfraction : (fraction x).toNat = x.toBits.toNat % 2 ^ 52 := by
    simp [fraction, UnpackedFloat.unpackMantissa, Float.toBits]
  have hfield : (field x).toNat = x.toBits.toNat / 2 ^ 52 % 2 ^ 11 := by
    simp [field, UnpackedFloat.unpackExponent, Float.toBits, Nat.shiftRight_eq_div_pow]
  have hmagnitude :
      magnitude x = x.toBits.toNat / 2 ^ 52 % 2 ^ 11 * 2 ^ 52 + x.toBits.toNat % 2 ^ 52 := by
    have hsign : signBit = 2 ^ 63 := by decide
    rw [magnitude, hsign]
    omega
  have hbias : (Format.binary64.exponentBias : Int) = 1023 := by decide
  have hbits := x.toBits.toBitVec.isLt
  dsimp only at hx
  split at hx
  · split at hx <;> cases hx
  · rename_i hfinite
    split at hx
    · rename_i hzero
      split at hx
      · cases hx
      · rw [UnpackedFloat.finite.injEq, ← fraction, ← field, hfraction, hfield, hbias] at hx
        obtain ⟨-, rfl, rfl⟩ := hx
        rw [field, hzero] at hfield
        have hfield' : x.toBits.toNat / 2 ^ 52 % 2 ^ 11 = 0 := hfield.symm
        rw [hmagnitude, hfield']
        omega
    · rename_i hnonzero
      have hsignificand : (1#1 ++ fraction x).toNat = 2 ^ 52 + x.toBits.toNat % 2 ^ 52 := by
        rw [BitVec.toNat_append, ← Nat.shiftLeft_add_eq_or_of_lt (BitVec.isLt _), hfraction]
        rfl
      have hne : x.toBits.toNat / 2 ^ 52 % 2 ^ 11 ≠ 0 := fun h =>
        hnonzero (BitVec.eq_of_toNat_eq (hfield.trans h))
      rw [UnpackedFloat.finite.injEq, ← fraction, ← field, hsignificand, hfield, hbias] at hx
      obtain ⟨-, rfl, rfl⟩ := hx
      rw [hmagnitude]
      omega

section Positive

variable {x y : Float} {m m' : Nat} {e e' : Int}

theorem lt_iff_of_isPositive (hx : IsPositive x m e) (hy : IsPositive y m' e') :
    x < y ↔ e < e' ∨ (e = e' ∧ m < m') := by
  obtain ⟨_, hx⟩ := hx
  obtain ⟨_, hy⟩ := hy
  rw [lt_iff, hx, hy]
  simp [UnpackedFloat.compare, Ordering.then_eq_lt, Int.compare_eq_lt, Nat.compare_eq_lt]

theorem le_iff_of_isPositive (hx : IsPositive x m e) (hy : IsPositive y m' e') :
    x ≤ y ↔ e < e' ∨ (e = e' ∧ m ≤ m') := by
  obtain ⟨_, hx⟩ := hx
  obtain ⟨_, hy⟩ := hy
  rw [le_iff, hx, hy]
  simp [UnpackedFloat.compare, Ordering.isLE_then_iff_or, Int.compare_eq_lt, Nat.isLE_compare]

/-- What is finite and not below a positive double is positive. -/
theorem isPositive_of_not_lt (hfinite : x.isFinite = true) (hy : IsPositive y m' e') (h : ¬ x < y) :
    ∃ m e, IsPositive x m e := by
  obtain ⟨_, hy⟩ := hy
  rw [lt_iff, hy] at h
  have hfinite : x.toModel.unpack.isFinite = true := hfinite
  unfold IsPositive
  cases hx : x.toModel.unpack with
  | infinity sign =>
    rw [hx] at hfinite
    cases hfinite
  | notANumber =>
    rw [hx] at hfinite
    cases hfinite
  | zero sign => exact absurd (by rw [hx]; rfl) h
  | finite sign m e hm =>
    cases sign with
    | negative => exact absurd (by rw [hx]; rfl) h
    | positive => exact ⟨m, e, hm, rfl⟩

theorem zero_le_of_isPositive (hx : IsPositive x m e) : 0 ≤ x := by
  obtain ⟨_, hx⟩ := hx
  rw [le_iff, hx]
  exact ⟨.lt, rfl, rfl⟩

theorem magnitude_le_magnitude (hx : IsPositive x m e) (hy : IsPositive y m' e') (h : x ≤ y) :
    magnitude x ≤ magnitude y := by
  rw [le_iff_of_isPositive hx hy] at h
  have hx := magnitude_of_isPositive hx
  have hy := magnitude_of_isPositive hy
  rcases hx with hx | hx <;> rcases hy with hy | hy <;> omega

end Positive

end Statescope.Binary64
