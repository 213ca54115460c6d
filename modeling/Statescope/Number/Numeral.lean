-- SUMMARY: Written numbers: sign, whole part, fraction and power of ten, with their text and their value.
import Statescope.Number.Decimal

/-!
# Numerals

A numeral is a number as it is written: every numeral has exactly one text, and
no numeral has a superfluous leading zero. `Numeral.ofFloat` chooses the numeral
of a double, the shortest one that reads back.
-/

namespace Statescope

/-- A written number: sign, whole part, the digits after the point (no point if
there are none), and the power of ten after the `e`, if there is one. -/
structure Numeral where
  negative : Bool
  whole : Nat
  fraction : List (Fin 10)
  power : Option Int
deriving DecidableEq

namespace Numeral

/-! ## Text -/

def digitChar (d : Fin 10) : Char := Nat.digitChar d

/-- The value of a decimal digit. -/
def digit? : Char → Option (Fin 10)
  | '0' => some 0 | '1' => some 1 | '2' => some 2 | '3' => some 3 | '4' => some 4
  | '5' => some 5 | '6' => some 6 | '7' => some 7 | '8' => some 8 | '9' => some 9
  | _ => none

@[simp] theorem digit?_digitChar (d : Fin 10) : digit? (digitChar d) = some d := by
  revert d; decide

/-- The number that a list of digits spells. -/
def value (ds : List (Fin 10)) : Nat := ds.foldl (fun n (d : Fin 10) => n * 10 + d.val) 0

/-- The text of a numeral. `plus` is written before a power that is not negative. -/
def render (plus : List Char) (n : Numeral) : List Char :=
  (if n.negative then ['-'] else []) ++ Nat.toDigits 10 n.whole ++ point ++ exponent
where
  point := match n.fraction with
    | [] => []
    | ds => '.' :: ds.map digitChar
  exponent := match n.power with
    | none => []
    | some (.ofNat e) => 'e' :: plus ++ Nat.toDigits 10 e
    | some (.negSucc e) => 'e' :: '-' :: Nat.toDigits 10 (e + 1)

/-! ## Value -/

/-- The magnitude of the number as a decimal. -/
def toDecimal (n : Numeral) : Decimal :=
  ⟨n.fraction.foldl (fun m (d : Fin 10) => m * 10 + d.val) n.whole,
    n.power.getD 0 - n.fraction.length⟩

/-- The same number without the zeros at the end of its fraction. -/
def trimFraction (n : Numeral) : Numeral :=
  { n with fraction := (n.fraction.reverse.dropWhile (· = 0)).reverse }

/-- The most digits that count when a numeral is read as a double. No number halfway
between two doubles has more. -/
def digitLimit : Nat := 768

/-- The nearest double, unless that is infinite. Digits beyond the limit, zeros of the
whole part included, put the number above the one that the digits before them spell. -/
def toFloat? (n : Numeral) : Option Float :=
  (n.trimFraction.toDecimal.cut digitLimit).toFloat? n.negative

/-- The integer that the numeral spells, if it has neither point nor power. Minus
zero is no integer. -/
def toInt? (n : Numeral) : Option Int :=
  if n.fraction = [] ∧ n.power = none then
    if n.negative then (if n.whole = 0 then none else some (-n.whole)) else some n.whole
  else none

/-- The numeral of an integer. -/
def ofInt (n : Int) : Numeral := ⟨n < 0, n.natAbs, [], none⟩

@[simp] theorem toInt?_ofInt (n : Int) : (ofInt n).toInt? = some n := by
  by_cases h : n < 0
  · have h' : n ≠ 0 := by omega
    have h'' : n ≤ 0 := by omega
    simp [toInt?, ofInt, h, h', Int.ofNat_natAbs_of_nonpos h'']
  · have h' : 0 ≤ n := by omega
    simp [toInt?, ofInt, h, Int.natAbs_of_nonneg h']

/-! ## Doubles -/

/-- Which doubles are written positionally: those whose first digit stands at a power
of ten that is at least `least` and less than `below`. The others get a power. -/
structure Style where
  least : Int
  below : Int

/-- The last `width` digits of `n`, with leading zeros. -/
def padded : Nat → Nat → List (Fin 10)
  | 0, _ => []
  | width + 1, n => padded width (n / 10) ++ [⟨n % 10, Nat.mod_lt _ (by decide)⟩]

/-- The numeral of a decimal: positional with at least one digit after the point, or
one digit before the point and a power. -/
def ofDecimal (style : Style) (negative : Bool) (d : Decimal) : Numeral :=
  let count := Decimal.digitCount d.digits
  let first : Int := d.exponent + count - 1
  if style.least ≤ first ∧ first < style.below then
    if 0 ≤ d.exponent then ⟨negative, d.digits * Nat.pow 10 d.exponent.toNat, [0], none⟩
    else
      let places := d.exponent.natAbs
      ⟨negative, d.digits / Nat.pow 10 places, padded places d.digits, none⟩
  else ⟨negative, d.digits / Nat.pow 10 (count - 1), padded (count - 1) d.digits, some first⟩

/-- The numeral of a double, unless it is infinite or undefined. Zero keeps its sign. -/
def ofFloat? (style : Style) (x : Float) : Option Numeral :=
  if Binary64.isFinite x then
    let magnitude := Binary64.magnitude x
    some <| if magnitude = 0 then ⟨Binary64.isNegative x, 0, [0], none⟩
      else ofDecimal style (Binary64.isNegative x) (Decimal.shortest magnitude)
  else none

end Numeral

end Statescope
