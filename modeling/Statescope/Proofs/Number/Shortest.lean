-- SUMMARY: The shortest decimal of a double reads back as it and has at most seventeen digits.
import Mathlib
import Statescope.Proofs.Number.Decimal

/-!
# The shortest decimal

The decimal that `Decimal.shortest` finds for a double reads back as that double
(`Decimal.shortest_spec`), and the search among those of at most seventeen digits
always ends with one. The double written out in full is never needed.
-/

namespace Statescope.Decimal

/-! ## Digits -/

/-- A number has at least as many digits as are counted from its bits. -/
theorem ten_pow_counted_le {n : Nat} (hn : n ≠ 0) : 10 ^ (Nat.log2 n * 301 / 1000) ≤ n := by
  generalize hb : Nat.log2 n = b
  have hpow : 10 ^ (b * 301 / 1000) ≤ 2 ^ b := by
    rw [← Nat.pow_le_pow_iff_left (show 196 ≠ 0 by decide), ← Nat.pow_mul, ← Nat.pow_mul]
    calc 10 ^ (b * 301 / 1000 * 196) ≤ 10 ^ (59 * b) :=
          Nat.pow_le_pow_right (by decide) (by omega)
      _ ≤ 2 ^ (b * 196) := by
          rw [Nat.pow_mul, Nat.mul_comm b, Nat.pow_mul]
          exact Nat.pow_le_pow_left (by decide) b
  rw [← hb] at hpow ⊢
  exact hpow.trans (Nat.log2_self_le hn)

/-- A number that is not zero lies between two powers of ten. -/
theorem digitCount_bounds {n : Nat} (hn : n ≠ 0) :
    10 ^ (digitCount n - 1) ≤ n ∧ n < 10 ^ digitCount n := by
  have hcounted := ten_pow_counted_le hn
  unfold digitCount
  simp only [Nat.pow_eq]
  generalize Nat.log2 n * 301 / 1000 = counted at hcounted ⊢
  have hpow : 0 < 10 ^ counted := Nat.pow_pos (by decide)
  have hfront : 0 < n / 10 ^ counted := Nat.div_pos hcounted hpow
  have hlength : 0 < (Nat.toDigits 10 (n / 10 ^ counted)).length := Nat.length_toDigits_pos
  have hupper : n / 10 ^ counted < 10 ^ (Nat.toDigits 10 (n / 10 ^ counted)).length :=
    (Nat.length_toDigits_le_iff (by decide) hlength).1 le_rfl
  have hlower : 10 ^ ((Nat.toDigits 10 (n / 10 ^ counted)).length - 1) ≤ n / 10 ^ counted := by
    by_contra hlt
    rw [Nat.not_le] at hlt
    by_cases hone : (Nat.toDigits 10 (n / 10 ^ counted)).length = 1
    · rw [hone] at hlt
      omega
    · have := (Nat.length_toDigits_le_iff (by decide) (by omega)).2 hlt
      omega
  constructor
  · rw [Nat.add_sub_assoc hlength, Nat.add_comm, Nat.pow_add]
    exact (Nat.le_div_iff_mul_le hpow).1 hlower
  · rw [Nat.add_comm, Nat.pow_add]
    exact (Nat.div_lt_iff_lt_mul hpow).1 hupper

theorem digitCount_pos {n : Nat} (hn : n ≠ 0) : 0 < digitCount n := by
  have hhigh := (digitCount_bounds hn).2
  by_contra hzero
  rw [Nat.eq_zero_of_not_pos hzero] at hhigh
  omega

theorem digitCount_le {n k : Nat} (hk : 0 < k) (h : n < 10 ^ k) : digitCount n ≤ k := by
  by_cases hn : n = 0
  · subst hn
    exact hk
  · have hlow := (digitCount_bounds hn).1
    have := (Nat.pow_lt_pow_iff_right (show 1 < 10 by decide)).1 (hlow.trans_lt h)
    omega

/-! ## Neighbours -/

theorem dropZero_sameValue (d : Decimal) : SameValue d.dropZero d := by
  unfold dropZero
  split
  · rename_i h
    obtain ⟨n, hn⟩ := Nat.dvd_of_mod_eq_zero h.1
    have hdrop := sameValue_mul_pow n 1 (d.exponent + 1)
    have hd : (⟨n * 10 ^ 1, d.exponent + 1 - (1 : Nat)⟩ : Decimal) = d := by
      cases d
      simp_all [Nat.mul_comm]
    rw [hd] at hdrop
    have hdigits : d.digits / 10 = n := by omega
    rw [hdigits]
    exact hdrop.symm
  · exact .refl d

theorem digits_dropZero_le (d : Decimal) : d.dropZero.digits ≤ d.digits := by
  unfold dropZero
  split
  · exact Nat.div_le_self _ _
  · exact Nat.le_refl _

/-- The neighbours of a decimal are the two multiples of a power of ten around it. -/
theorem exists_of_mem_neighbours {d d' : Decimal} {k : Nat} (h : d' ∈ d.neighbours k) :
    ∃ n, (n = d.digits / 10 ^ k ∨ n = d.digits / 10 ^ k + 1) ∧
      d' = dropZero ⟨n, d.exponent + k⟩ := by
  unfold neighbours at h
  simp only [Nat.pow_eq] at h
  split at h <;> simp only [List.mem_cons, List.not_mem_nil, or_false] at h <;>
    rcases h with rfl | rfl
  · exact ⟨_, .inl rfl, rfl⟩
  · exact ⟨_, .inr rfl, rfl⟩
  · exact ⟨_, .inr rfl, rfl⟩
  · exact ⟨_, .inl rfl, rfl⟩

/-- One of the neighbours is at most half a step away. -/
theorem exists_mem_neighbours (d : Decimal) (k : Nat) :
    ∃ n, dropZero ⟨n, d.exponent + k⟩ ∈ d.neighbours k ∧
      2 * d.digits ≤ 2 * (n * 10 ^ k) + 10 ^ k ∧ 2 * (n * 10 ^ k) ≤ 2 * d.digits + 10 ^ k := by
  have hpow : 0 < 10 ^ k := Nat.pow_pos (by decide)
  have hdiv := Nat.div_add_mod d.digits (10 ^ k)
  have hmod := Nat.mod_lt d.digits hpow
  rw [Nat.mul_comm] at hdiv
  unfold neighbours
  simp only [Nat.pow_eq]
  split
  · exact ⟨d.digits / 10 ^ k, by simp, by omega, by omega⟩
  · refine ⟨d.digits / 10 ^ k + 1, by simp, ?_, ?_⟩
    · rw [Nat.add_mul]
      omega
    · rw [Nat.add_mul]
      omega

/-! ## The shortest decimal -/

theorem exists_exact_eq (m : Nat) : ∃ places : Nat, places = 1074 ∧
    exact m = ⟨Binary64.units m * 5 ^ places, -1074⟩ := by
  unfold exact
  generalize 1074 = places
  exact ⟨places, rfl, rfl⟩

/-- What differs from a magnitude by at most half of its seventeenth digit is as good
as the magnitude. -/
theorem approximates_of_close {m k n : Nat} (hlarge : 10 ^ 16 * 10 ^ k ≤ (exact m).digits)
    (hlow : 2 * (exact m).digits ≤ 2 * (n * 10 ^ k) + 10 ^ k)
    (hhigh : 2 * (n * 10 ^ k) ≤ 2 * (exact m).digits + 10 ^ k) :
    Binary64.Approximates (num ⟨n * 10 ^ k, (exact m).exponent⟩)
      (den ⟨n * 10 ^ k, (exact m).exponent⟩) m := by
  obtain ⟨places, hplaces, hexact⟩ := exists_exact_eq m
  obtain ⟨places', hplaces', hunits⟩ := Binary64.exists_unitsPerOne_eq
  obtain rfl : places' = places := hplaces'.trans hplaces.symm
  rw [hexact] at hlarge hlow hhigh ⊢
  have hnum : num ⟨n * 10 ^ k, -1074⟩ = n * 10 ^ k := by simp [num]
  have hden : den ⟨n * 10 ^ k, -1074⟩ = 10 ^ places' := by rw [hplaces', den]; rfl
  -- The powers of two are the same on both sides.
  have hscale : Binary64.units m * 10 ^ places' = Binary64.units m * 5 ^ places' * 2 ^ places' := by
    rw [Nat.mul_assoc, ← Nat.mul_pow]
  rw [hnum, hden]
  simp only at hlarge hlow hhigh
  refine ⟨Nat.pow_pos (by decide), ?_, ?_⟩
  · rw [hscale, hunits, ← Nat.mul_assoc 19999999999999999, ← Nat.mul_assoc 20000000000000000]
    exact Nat.mul_le_mul_right _ (by omega)
  · rw [hscale, hunits, ← Nat.mul_assoc 20000000000000000, ← Nat.mul_assoc 20000000000000001]
    exact Nat.mul_le_mul_right _ (by omega)

theorem seventeen_le_digitCount_exact {m : Nat} (hm : 0 < m) :
    17 ≤ digitCount (exact m).digits := by
  have hunits : 0 < Binary64.units m := by
    have hbit : Binary64.implicitBit = 2 ^ 52 := by decide
    unfold Binary64.units
    split
    · exact hm
    · rw [Nat.shiftLeft_eq, hbit]
      exact Nat.mul_pos (by omega) (Nat.two_pow_pos _)
  obtain ⟨places, hplaces, hexact⟩ := exists_exact_eq m
  rw [hexact]
  have hlarge : 10 ^ 16 ≤ Binary64.units m * 5 ^ places :=
    calc 10 ^ 16 ≤ 5 ^ 24 := by decide
      _ ≤ 5 ^ places := Nat.pow_le_pow_right (by decide) (by omega)
      _ ≤ Binary64.units m * 5 ^ places := Nat.le_mul_of_pos_left _ hunits
  by_contra hlt
  have hcount : digitCount (Binary64.units m * 5 ^ places) ≤ 16 := by
    simp only at hlt
    omega
  have hupper := (digitCount_bounds (n := Binary64.units m * 5 ^ places) (by omega)).2
  exact absurd (hupper.trans_le (Nat.pow_le_pow_right (by decide) hcount)) (Nat.not_lt.2 hlarge)

/-- Seventeen digits are enough. -/
theorem exists_neighbour_nearest {m : Nat} (hm : 0 < m) (hfinite : m < Binary64.infinity) :
    ∃ d ∈ (exact m).neighbours (digitCount (exact m).digits - 17), d.nearest = m := by
  have hcount := seventeen_le_digitCount_exact hm
  have hbounds := digitCount_bounds (n := (exact m).digits) (by
    rintro hzero
    rw [hzero] at hcount
    exact absurd hcount (by decide))
  obtain ⟨k, hk⟩ := Nat.exists_eq_add_of_le hcount
  have hlarge : 10 ^ 16 * 10 ^ k ≤ (exact m).digits := by
    rw [← Nat.pow_add]
    exact (Nat.pow_le_pow_right (by decide) (by omega)).trans hbounds.1
  rw [hk, Nat.add_sub_cancel_left]
  obtain ⟨n, hmem, hlow, hhigh⟩ := exists_mem_neighbours (exact m) k
  refine ⟨_, hmem, ?_⟩
  have hnear := (approximates_of_close hlarge hlow hhigh).nearest_eq
  have hsame := sameValue_mul_pow n k ((exact m).exponent + k)
  rw [Int.add_sub_cancel] at hsame
  refine (hsame.trans (dropZero_sameValue _).symm).nearest_eq_of_eq hfinite ?_
  exact (nearest_eq_iff hfinite).2 hnear

theorem digits_le_of_mem_neighbours {m i : Nat} {d : Decimal}
    (h : d ∈ (exact m).neighbours (digitCount (exact m).digits - (i + 1))) :
    d.digits ≤ 10 ^ (i + 1) := by
  obtain ⟨n, hn, rfl⟩ := exists_of_mem_neighbours h
  refine (digits_dropZero_le _).trans ?_
  have hupper : (exact m).digits < 10 ^ digitCount (exact m).digits := by
    by_cases hzero : (exact m).digits = 0
    · rw [hzero]
      exact Nat.pow_pos (by decide)
    · exact (digitCount_bounds hzero).2
  have hlt : (exact m).digits / 10 ^ (digitCount (exact m).digits - (i + 1)) < 10 ^ (i + 1) := by
    rw [Nat.div_lt_iff_lt_mul (Nat.pow_pos (by decide)), ← Nat.pow_add]
    exact hupper.trans_le (Nat.pow_le_pow_right (by decide) (by omega))
  simp only
  omega

theorem shortest_spec {m : Nat} (hm : 0 < m) (hfinite : m < Binary64.infinity) :
    (shortest m).nearest = m ∧ (shortest m).digits ≤ 10 ^ 17 := by
  obtain ⟨d, hmem, hd⟩ := exists_neighbour_nearest hm hfinite
  unfold shortest
  simp only
  generalize hfound : (List.range 17).findSome? _ = found
  cases found with
  | none =>
    rw [List.findSome?_eq_none_iff] at hfound
    have hnone := hfound 16 (by decide)
    rw [List.find?_eq_none] at hnone
    exact absurd (by simpa using hd) (hnone d hmem)
  | some d' =>
    obtain ⟨i, hi, hfind⟩ := List.exists_of_findSome?_eq_some hfound
    have hle := digits_le_of_mem_neighbours (List.mem_of_find?_eq_some hfind)
    rw [List.mem_range] at hi
    refine ⟨by simpa using List.find?_some hfind, hle.trans ?_⟩
    exact Nat.pow_le_pow_right (by decide) hi

end Statescope.Decimal
