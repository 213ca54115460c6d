-- SUMMARY: Doubles as people spell them: optional sign, digits with an optional point, optional power.
import Statescope.Number.Numeral

/-!
# Spelled numbers

The lenient spelling of numbers: a sign of either kind, digits on at least one
side of the point, leading zeros, and a power of ten. Only finite numbers are
wanted, so the words for infinity and for no number are not read.
-/

namespace Statescope.Spelled

/-- The digits at the front, and what follows them. -/
def digits : List Char → List (Fin 10) × List Char
  | [] => ([], [])
  | c :: cs =>
    match Numeral.digit? c with
    | some d => let (ds, rest) := digits cs; (d :: ds, rest)
    | none => ([], c :: cs)

/-- The sign at the front: whether it is a minus. -/
def sign : List Char → Bool × List Char
  | '-' :: cs => (true, cs)
  | '+' :: cs => (false, cs)
  | cs => (false, cs)

/-- The power of ten that the whole rest of a number spells; nothing spells the zeroth. -/
def power? : List Char → Option Int
  | [] => some 0
  | c :: cs =>
    if c = 'e' ∨ c = 'E' then
      let (negative, cs) := sign cs
      match digits cs with
      | ([], _) => none
      | (ds, []) => some (if negative then -(Numeral.value ds : Int) else Numeral.value ds)
      | _ => none
    else none

/-- The double that the text spells, if it spells a finite one. -/
def float? (cs : List Char) : Option Float := do
  let (negative, cs) := sign cs
  let (whole, cs) := digits cs
  let (fraction, cs) := match cs with
    | '.' :: cs => digits cs
    | cs => ([], cs)
  guard (whole ≠ [] ∨ fraction ≠ [])
  let power ← power? cs
  Decimal.toFloat? negative ⟨Numeral.value (whole ++ fraction), power - fraction.length⟩

end Statescope.Spelled
