-- SUMMARY: Finite doubles as whole numbers of least units, and the nearest double to a quotient.

/-!
# Double-precision magnitudes

The magnitude of a double is the number that its bits form without the sign.
Every finite magnitude is a whole number of least units, the unit being
`2 ^ -1074`: `units` counts them and `nearest` goes back, from any quotient of
natural numbers to the nearest magnitude, an even one at a tie. All of it is
arithmetic of natural numbers, so that no step rounds unseen.
-/

namespace Statescope.Binary64

/-! ## Rounding -/

/-- The whole number nearest to `num / den`; halfway between two, the even one. -/
def roundDiv (num den : Nat) : Nat :=
  let q := num / den
  let r := num % den
  if 2 * r < den ∨ (2 * r = den ∧ q % 2 = 0) then q else q + 1

/-! ## Magnitudes -/

/-- The weight of the exponent field. -/
def implicitBit : Nat := 1 <<< 52

/-- The magnitude of infinity: every smaller one is finite. -/
def infinity : Nat := 2047 * implicitBit

/-- The bit that makes a double negative. -/
def signBit : Nat := 1 <<< 63

/-- Least units per one. -/
def unitsPerOne : Nat := 1 <<< 1074

/-- How many least units make up a finite magnitude. Up to `2 ^ 53` these are the
magnitude itself; above, the exponent field counts doublings. -/
def units (magnitude : Nat) : Nat :=
  if magnitude < 2 * implicitBit then magnitude
  else (implicitBit + magnitude % implicitBit) <<< (magnitude / implicitBit - 1)

/-- The magnitude nearest to `num / den`, at least `infinity` when that is too large. -/
def nearest (num den : Nat) : Nat :=
  let scaled := num * unitsPerOne
  let shift := Nat.log2 (scaled / den) - 52
  shift * implicitBit + roundDiv scaled (den <<< shift)

/-! ## Doubles -/

/-- The magnitude of a double. -/
def magnitude (x : Float) : Nat := x.toBits.toNat % signBit

/-- Whether the sign bit is set; so also of `-0.0`. -/
def isNegative (x : Float) : Bool := x.toBits.toNat / signBit = 1

/-- Whether the double is a number, neither infinite nor undefined. -/
def isFinite (x : Float) : Bool := magnitude x < infinity

/-- The double with this sign and magnitude. -/
def toFloat (negative : Bool) (magnitude : Nat) : Float :=
  Float.ofBits (UInt64.ofNat (if negative then signBit + magnitude else magnitude))

/-- The whole number nearest to `x * scale`, for a double that is not negative. -/
def roundScaled (x : Float) (scale : Nat) : Nat :=
  roundDiv (units (magnitude x) * scale) unitsPerOne

end Statescope.Binary64
