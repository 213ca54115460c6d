-- SUMMARY: Decimals, the double nearest to one, and the shortest one that reads back as a given double.
import Statescope.Number.Binary64

/-!
# Decimals

A decimal is a whole number of units of a power of ten. `Decimal.nearest` reads
it as a double, and `Decimal.shortest` writes a double with the fewest digits
that read back.
-/

namespace Statescope

/-- The number `digits * 10 ^ exponent`. -/
structure Decimal where
  digits : Nat
  exponent : Int
deriving DecidableEq

namespace Decimal

/-- How many digits the number has when written out. As `10 ^ 301` is less than
`2 ^ 1000`, a number of `b + 1` bits has more than `b * 301 / 1000` digits. So many are
counted, and only what stands before them is written out. -/
def digitCount (n : Nat) : Nat :=
  let counted := Nat.log2 n * 301 / 1000
  counted + (Nat.toDigits 10 (n / Nat.pow 10 counted)).length

/-! ## Reading -/

/-- The decimal cut after its first `limit` digits, with a one for what was cut. The one
stands there also if only zeros were cut, so a cut number is never exact. -/
def cut (limit : Nat) (d : Decimal) : Decimal :=
  let excess := digitCount d.digits - limit
  if excess = 0 then d
  else ⟨d.digits / Nat.pow 10 excess * 10 + 1, d.exponent + excess - 1⟩

theorem cut_of_le {limit : Nat} {d : Decimal} (h : digitCount d.digits ≤ limit) :
    d.cut limit = d := by
  simp [cut, Nat.sub_eq_zero_of_le h]

/-- The magnitude nearest to the decimal. The first tests keep huge exponents from
being written out: beyond them the value is no longer finite, or less than half a
least unit. -/
def nearest (d : Decimal) : Nat :=
  if d.digits = 0 then 0
  else if 400 < d.exponent then Binary64.infinity
  else if 0 ≤ d.exponent then Binary64.nearest (d.digits * Nat.pow 10 d.exponent.toNat) 1
  else if Nat.log2 d.digits + 1100 < 3 * d.exponent.natAbs then 0
  else Binary64.nearest d.digits (Nat.pow 10 d.exponent.natAbs)

/-- The double nearest to the decimal with this sign, unless that is infinite. -/
def toFloat? (negative : Bool) (d : Decimal) : Option Float :=
  let magnitude := d.nearest
  if magnitude < Binary64.infinity then some (Binary64.toFloat negative magnitude) else none

/-! ## Writing -/

/-- The same number without one trailing zero, if there is one. -/
def dropZero (d : Decimal) : Decimal :=
  if d.digits % 10 = 0 ∧ d.digits ≠ 0 then ⟨d.digits / 10, d.exponent + 1⟩ else d

/-- The magnitude, all of its digits written out. -/
def exact (magnitude : Nat) : Decimal :=
  ⟨Binary64.units magnitude * Nat.pow 5 1074, -1074⟩

/-- The two neighbours of a decimal that drop its last `k` digits, the nearer one
first and the even one first at a tie. -/
def neighbours (d : Decimal) (k : Nat) : List Decimal :=
  let unit := Nat.pow 10 k
  let low : Decimal := dropZero ⟨d.digits / unit, d.exponent + k⟩
  let high : Decimal := dropZero ⟨d.digits / unit + 1, d.exponent + k⟩
  let rest := d.digits % unit
  if 2 * rest < unit ∨ (2 * rest = unit ∧ d.digits / unit % 2 = 0) then [low, high]
  else [high, low]

/-- The decimal with the fewest digits that reads back as the magnitude, the nearest
one of these. Seventeen digits are always enough. -/
def shortest (magnitude : Nat) : Decimal :=
  let all := exact magnitude
  let count := digitCount all.digits
  let readsBack (d : Decimal) : Bool := d.nearest = magnitude
  ((List.range 17).findSome? fun i => (all.neighbours (count - (i + 1))).find? readsBack).getD all

end Decimal

end Statescope
