-- SUMMARY: A finite double is its sign and its magnitude, and both give its bits.
import Mathlib
import Statescope.Number.Binary64

/-!
# The bits of doubles

Unpacking the bits of a finite double and packing them again changes nothing
(`Binary64.toBits_ofBits`), so that finite doubles and signed magnitudes correspond to
each other: `Binary64.magnitude_toFloat` and `Binary64.toFloat_magnitude`.
-/

namespace Statescope.Binary64

open Float.Model Float.Model.UnpackedFloat

/-! ## Words -/

/-- The bits of a double with this sign, exponent field and significand. -/
abbrev bitsOf (s : Sign) (e : BitVec 11) (m : BitVec 52) : BitVec 64 :=
  packComponents Format.binary64 s e m

theorem toNat_bitsOf (s : Sign) (e : BitVec 11) (m : BitVec 52) :
    (bitsOf s e m).toNat = s.toBitVec.toNat * 2 ^ 63 + e.toNat * 2 ^ 52 + m.toNat := by
  have he := e.isLt
  have hm := m.isLt
  unfold bitsOf packComponents
  rw [BitVec.toNat_append, BitVec.toNat_append, ← Nat.shiftLeft_add_eq_or_of_lt he,
    ← Nat.shiftLeft_add_eq_or_of_lt hm, Nat.shiftLeft_eq, Nat.shiftLeft_eq]
  omega

theorem exists_bitsOf (b : BitVec 64) : ∃ s e m, b = bitsOf s e m := by
  have hsign (v : BitVec 1) : (Sign.ofBitVec v).toBitVec = v := by
    revert v
    decide
  refine ⟨.ofBitVec (@unpackSign Format.binary64 b), @unpackExponent Format.binary64 b,
    @unpackMantissa Format.binary64 b, ?_⟩
  apply BitVec.eq_of_toNat_eq
  rw [toNat_bitsOf, hsign]
  have hb := b.isLt
  simp [unpackSign, unpackExponent, unpackMantissa, Nat.shiftRight_eq_div_pow]
  omega

theorem unpackSign_bitsOf (s : Sign) (e : BitVec 11) (m : BitVec 52) :
    Sign.ofBitVec (@unpackSign Format.binary64 (bitsOf s e m)) = s := by
  have hsign : @unpackSign Format.binary64 (bitsOf s e m) = s.toBitVec := by
    apply BitVec.eq_of_toNat_eq
    have he := e.isLt
    have hm := m.isLt
    have hs := s.toBitVec.isLt
    simp [unpackSign, toNat_bitsOf, Nat.shiftRight_eq_div_pow]
    omega
  rw [hsign]
  cases s <;> rfl

/-- Unpacking a finite double and packing it again gives its bits. -/
theorem pack_unpack_bitsOf (s : Sign) {e : BitVec 11} (m : BitVec 52) (he : e.toNat < 2047) :
    UnpackedFloat.pack Format.binary64 (UnpackedFloat.unpack Format.binary64 (bitsOf s e m))
      = bitsOf s e m := by
  have hm := m.isLt
  have hinfinite : e ≠ -1#11 := by
    rintro rfl
    exact absurd he (by decide)
  have hbias : (Format.binary64.exponentBias : Int) = 1023 := by decide
  unfold UnpackedFloat.unpack
  dsimp only
  rw [unpackSign_bitsOf]
  simp only [unpackMantissa_packComponents, unpackExponent_packComponents, if_neg hinfinite]
  by_cases hzero : e = 0#11
  · subst hzero
    rw [if_pos rfl]
    by_cases hmant : m = 0#52
    · subst hmant
      rfl
    · have hlog : m.toNat.log2 < 52 :=
        (Nat.log2_lt (by simpa [← BitVec.toNat_inj] using hmant)).2 hm
      simp only [hmant, dif_neg, not_false_eq_true, UnpackedFloat.pack, hbias]
      rw [if_neg, if_neg]
      · simp
      · simp only [Format.mantissaBits]
        omega
      · simp
  · rw [if_neg hzero]
    have hsignificand : (1#1 ++ m).toNat = 2 ^ 52 + m.toNat := by
      rw [BitVec.toNat_append, ← Nat.shiftLeft_add_eq_or_of_lt hm]
      rfl
    have hlog : (2 ^ 52 + m.toNat).log2 = 52 :=
      (Nat.log2_eq_iff (by omega)).2 ⟨by omega, by omega⟩
    have hexponent : ((e.toNat : Int) - (1023 + 52) + 1023 + 52).toNat = e.toNat := by omega
    simp only [UnpackedFloat.pack, hsignificand, hlog, hbias]
    rw [if_neg, if_pos]
    · congr 1
      · apply BitVec.eq_of_toNat_eq
        simp
        omega
      · apply BitVec.eq_of_toNat_eq
        simp
        omega
    · rfl
    · simp
      omega

/-! ## Signs and magnitudes -/

/-- The bits of a finite double are kept as they are. -/
@[simp] theorem toBits_ofBits {b : UInt64} (h : b.toNat % signBit < infinity) :
    (Float.ofBits b).toBits = b := by
  have hsign : signBit = 2 ^ 63 := by decide
  have hinfinity : infinity = 2047 * 2 ^ 52 := by decide
  obtain ⟨s, e, m, hb⟩ := exists_bitsOf b.toBitVec
  have hnat : b.toNat = s.toBitVec.toNat * 2 ^ 63 + e.toNat * 2 ^ 52 + m.toNat := by
    rw [← toNat_bitsOf, ← hb]
    rfl
  have he : e.toNat < 2047 := by
    have := e.isLt
    rw [hsign, hinfinity] at h
    omega
  change UInt64.ofBitVec (UnpackedFloat.pack Format.binary64
    (UnpackedFloat.unpack Format.binary64 b.toBitVec)) = b
  rw [hb, pack_unpack_bitsOf s m he, ← hb]

theorem eq_of_toBits_eq {x y : Float} (h : x.toBits = y.toBits) : x = y := by
  obtain ⟨⟨_, _⟩⟩ := x
  obtain ⟨⟨_, _⟩⟩ := y
  cases h
  rfl

theorem toBits_toFloat (negative : Bool) {m : Nat} (h : m < infinity) :
    (toFloat negative m).toBits.toNat = if negative then signBit + m else m := by
  have hsign : signBit = 2 ^ 63 := by decide
  have hinfinity : infinity = 2047 * 2 ^ 52 := by decide
  rw [hinfinity] at h
  have hbits : (UInt64.ofNat (if negative then signBit + m else m)).toNat
      = if negative then signBit + m else m := by
    rw [UInt64.toNat_ofNat', hsign]
    split <;> omega
  unfold toFloat
  rw [toBits_ofBits, hbits]
  rw [hbits, hsign, hinfinity]
  split <;> omega

theorem magnitude_toFloat (negative : Bool) {m : Nat} (h : m < infinity) :
    magnitude (toFloat negative m) = m := by
  have hsign : signBit = 2 ^ 63 := by decide
  have hinfinity : infinity = 2047 * 2 ^ 52 := by decide
  rw [magnitude, toBits_toFloat negative h, hsign]
  rw [hinfinity] at h
  split <;> omega

/-- A finite double is put together from its sign and its magnitude. -/
theorem toFloat_magnitude {x : Float} (h : isFinite x = true) :
    toFloat (isNegative x) (magnitude x) = x := by
  have hsign : signBit = 2 ^ 63 := by decide
  have hfinite : magnitude x < infinity := by simpa [isFinite] using h
  have hx := x.toBits.toNat_lt
  apply eq_of_toBits_eq
  apply UInt64.toNat_inj.1
  rw [toBits_toFloat _ hfinite, magnitude, isNegative, hsign]
  simp only [decide_eq_true_eq]
  split <;> omega

end Statescope.Binary64
