-- SUMMARY: A finite double is written as a numeral that reads back as it, and only finite ones are read.
import Mathlib
import Statescope.Number.Numeral
import Statescope.Proofs.Number.Bits
import Statescope.Proofs.Number.Shortest

/-!
# Doubles that are written and read

A finite double is written as a numeral that is read as the same double, bit by bit
(`Numeral.exists_ofFloat?`), and whatever is read is finite
(`Numeral.isFinite_of_toFloat?`).
-/

namespace Statescope

/-- What a decimal is read as is finite. -/
theorem Decimal.isFinite_of_toFloat? {d : Decimal} {negative : Bool} {x : Float}
    (h : d.toFloat? negative = some x) : Binary64.isFinite x = true := by
  unfold toFloat? at h
  simp only at h
  split at h
  · rename_i hfinite
    cases h
    rw [Binary64.isFinite, Binary64.magnitude_toFloat _ hfinite]
    exact decide_eq_true hfinite
  · cases h

namespace Numeral

/-! ## Digits -/

/-- The number that digits spell after those of another one. -/
abbrev spelled (n : Nat) (ds : List (Fin 10)) : Nat := ds.foldl (fun m (d : Fin 10) => m * 10 + d.val) n

theorem spelled_append (n : Nat) (ds ds' : List (Fin 10)) :
    spelled n (ds ++ ds') = spelled (spelled n ds) ds' :=
  List.foldl_append

theorem spelled_zeros (n : Nat) {ds : List (Fin 10)} (h : ∀ d ∈ ds, d = 0) :
    spelled n ds = n * 10 ^ ds.length := by
  induction ds generalizing n with
  | nil => simp [spelled]
  | cons d ds ih =>
    rw [List.forall_mem_cons] at h
    have hds := ih (n * 10) h.2
    simp only [spelled, List.foldl_cons, h.1, List.length_cons, Nat.pow_succ] at hds ⊢
    rw [Fin.val_zero, Nat.add_zero, hds, Nat.mul_assoc, Nat.mul_comm 10]

@[simp] theorem length_padded (width n : Nat) : (padded width n).length = width := by
  induction width generalizing n with
  | zero => rfl
  | succ width ih => simp [padded, ih]

theorem spelled_padded (width n : Nat) : spelled (n / 10 ^ width) (padded width n) = n := by
  induction width generalizing n with
  | zero => simp [padded, spelled]
  | succ width ih =>
    have hwidth := ih (n / 10)
    rw [Nat.div_div_eq_div_mul, ← Nat.pow_succ'] at hwidth
    rw [padded, spelled_append, hwidth]
    simp only [spelled, List.foldl_cons, List.foldl_nil]
    omega

/-! ## Zeros at the end -/

/-- Zeros at the end of the fraction are of no account. -/
theorem toDecimal_trimFraction (n : Numeral) :
    Decimal.SameValue n.toDecimal n.trimFraction.toDecimal ∧
      n.trimFraction.toDecimal.digits ≤ n.toDecimal.digits := by
  obtain ⟨front, zeros, hfront, hsplit, hzeros⟩ : ∃ front zeros, n.trimFraction.fraction = front ∧
      n.fraction = front ++ zeros ∧ ∀ d ∈ zeros, d = 0 := by
    refine ⟨_, (n.fraction.reverse.takeWhile (· = 0)).reverse, rfl, ?_, ?_⟩
    · rw [trimFraction, ← List.reverse_append, List.takeWhile_append_dropWhile, List.reverse_reverse]
    · intro d hd
      rw [List.mem_reverse] at hd
      simpa using List.mem_takeWhile_imp hd
  have hdecimal : n.toDecimal = ⟨spelled n.whole front * 10 ^ zeros.length,
      n.power.getD 0 - front.length - zeros.length⟩ := by
    rw [toDecimal, ← spelled, hsplit, spelled_append, spelled_zeros _ hzeros, List.length_append]
    congr 1
    omega
  have htrimmed : n.trimFraction.toDecimal = ⟨spelled n.whole front, n.power.getD 0 - front.length⟩ := by
    rw [toDecimal, hfront]
    rfl
  rw [hdecimal, htrimmed]
  exact ⟨Decimal.sameValue_mul_pow _ _ _, Nat.le_mul_of_pos_right _ (Nat.pow_pos (by decide))⟩

/-! ## Decimals -/

theorem negative_ofDecimal (style : Style) (negative : Bool) (d : Decimal) :
    (ofDecimal style negative d).negative = negative := by
  unfold ofDecimal
  simp only
  split
  · split <;> rfl
  · rfl

/-- The numeral of a decimal has a point or a power, and so is not an integer. -/
theorem toInt?_ofDecimal (style : Style) (negative : Bool) (d : Decimal) :
    (ofDecimal style negative d).toInt? = none := by
  unfold ofDecimal
  simp only
  split
  · split
    · rfl
    · rename_i hfraction
      have hplaces : padded d.exponent.natAbs d.digits ≠ [] := by
        intro hnil
        have := length_padded d.exponent.natAbs d.digits
        rw [hnil, List.length_nil] at this
        omega
      simp [toInt?, hplaces]
  · simp [toInt?]

/-- Digits with a point among them, and maybe a power. -/
theorem toDecimal_padded (negative : Bool) (n k : Nat) (power : Option Int) :
    toDecimal ⟨negative, n / 10 ^ k, padded k n, power⟩ = ⟨n, power.getD 0 - k⟩ := by
  rw [toDecimal, ← spelled, spelled_padded, length_padded]

/-- Digits with the zeros of a power written out. -/
theorem toDecimal_zeros (negative : Bool) (n k : Nat) :
    toDecimal ⟨negative, n * 10 ^ k, [0], none⟩ = ⟨n * 10 ^ (k + 1), k - (k + 1 : Nat)⟩ := by
  simp only [toDecimal, List.foldl_cons, List.foldl_nil, Fin.val_zero, Nat.add_zero, Nat.mul_assoc,
    ← Nat.pow_succ, Option.getD_none, List.length_singleton]
  congr 1
  omega

/-- A numeral of at most seventeen digits stands for the decimal it is made of, and has
no more digits than are read. -/
theorem toDecimal_ofDecimal {style : Style} (negative : Bool) {d : Decimal} (hd : d.digits ≠ 0)
    (hstyle : style.below ≤ 700) (hdigits : d.digits ≤ 10 ^ 17) :
    Decimal.SameValue d (ofDecimal style negative d).toDecimal ∧
      (ofDecimal style negative d).toDecimal.digits < 10 ^ digitLimit := by
  have hlimit : digitLimit = 768 := rfl
  have hsame {d' : Decimal} (hd' : d' = d) :
      Decimal.SameValue d d' ∧ d'.digits < 10 ^ digitLimit := by
    rw [hd']
    have hfew : d.digits < 10 ^ 18 := hdigits.trans_lt (by decide)
    exact ⟨.refl d, hfew.trans_le (Nat.pow_le_pow_right (by decide) (by omega))⟩
  obtain ⟨digits, exponent⟩ := d
  have hcount : 0 < Decimal.digitCount digits := Decimal.digitCount_pos hd
  have hhigh : digits < 10 ^ Decimal.digitCount digits := (Decimal.digitCount_bounds hd).2
  unfold ofDecimal
  simp only [Nat.pow_eq]
  split
  · rename_i hfirst
    split
    · rename_i hwhole
      obtain ⟨k, rfl⟩ := Int.eq_ofNat_of_zero_le hwhole
      rw [Int.toNat_natCast, toDecimal_zeros]
      refine ⟨(Decimal.sameValue_mul_pow _ _ _).symm, ?_⟩
      calc digits * 10 ^ (k + 1)
          < 10 ^ Decimal.digitCount digits * 10 ^ (k + 1) :=
            Nat.mul_lt_mul_of_pos_right hhigh (Nat.pow_pos (by decide))
        _ = 10 ^ (Decimal.digitCount digits + (k + 1)) := (Nat.pow_add ..).symm
        _ ≤ 10 ^ digitLimit := Nat.pow_le_pow_right (by decide) (by omega)
    · rename_i hfraction
      have hexponent : (none : Option Int).getD 0 - (exponent.natAbs : Int) = exponent := by
        rw [Option.getD_none]
        omega
      rw [toDecimal_padded, hexponent]
      exact hsame rfl
  · have hexponent : (some (exponent + Decimal.digitCount digits - 1)).getD 0
        - ((Decimal.digitCount digits - 1 : Nat) : Int) = exponent := by
      rw [Option.getD_some]
      omega
    rw [toDecimal_padded, hexponent]
    exact hsame rfl

/-! ## Doubles -/

/-- A numeral that stands for a decimal is read as the double nearest to that. -/
theorem toFloat?_eq_some {n : Numeral} {d : Decimal} (hsame : Decimal.SameValue d n.toDecimal)
    (hdigits : n.toDecimal.digits < 10 ^ digitLimit) (hfinite : d.nearest < Binary64.infinity) :
    n.toFloat? = some (Binary64.toFloat n.negative d.nearest) := by
  obtain ⟨htrim, hfewer⟩ := toDecimal_trimFraction n
  have hcut := Decimal.cut_of_le (Decimal.digitCount_le (by decide) (hfewer.trans_lt hdigits))
  have hnearest : n.trimFraction.toDecimal.nearest = d.nearest :=
    (hsame.trans htrim).nearest_eq_of_eq hfinite rfl
  rw [toFloat?, hcut, Decimal.toFloat?]
  simp only [hnearest, if_pos hfinite]

/-- What is read is finite. -/
theorem isFinite_of_toFloat? {n : Numeral} {x : Float} (h : n.toFloat? = some x) :
    Binary64.isFinite x = true :=
  Decimal.isFinite_of_toFloat? h

/-- A finite double is written as a numeral that reads back as it. -/
theorem exists_ofFloat? (style : Style) (hstyle : style.below ≤ 700) {x : Float}
    (hx : Binary64.isFinite x = true) :
    ∃ n, ofFloat? style x = some n ∧ n.toFloat? = some x ∧ n.toInt? = none := by
  have hfinite : Binary64.magnitude x < Binary64.infinity := by simpa [Binary64.isFinite] using hx
  unfold ofFloat?
  simp only [hx, if_true]
  by_cases hzero : Binary64.magnitude x = 0
  · rw [if_pos hzero]
    refine ⟨_, rfl, ?_, rfl⟩
    have hread := toFloat?_eq_some (n := ⟨Binary64.isNegative x, 0, [0], none⟩) (.refl _)
      (Nat.pow_pos (by decide)) (d := ⟨0, -1⟩) (by decide)
    rw [hread]
    have hnearest : Decimal.nearest ⟨0, -1⟩ = Binary64.magnitude x := hzero.symm
    rw [hnearest, Binary64.toFloat_magnitude hx]
  · rw [if_neg hzero]
    obtain ⟨hnearest, hdigits⟩ := Decimal.shortest_spec (Nat.pos_of_ne_zero hzero) hfinite
    have hne : (Decimal.shortest (Binary64.magnitude x)).digits ≠ 0 := by
      intro hdigits
      rw [Decimal.nearest, if_pos hdigits] at hnearest
      exact hzero hnearest.symm
    obtain ⟨hsame, hlimit⟩ := toDecimal_ofDecimal (Binary64.isNegative x) hne hstyle hdigits
    refine ⟨_, rfl, ?_, toInt?_ofDecimal _ _ _⟩
    rw [toFloat?_eq_some hsame hlimit (by rw [hnearest]; exact hfinite), hnearest,
      negative_ofDecimal, Binary64.toFloat_magnitude hx]

end Numeral

end Statescope
