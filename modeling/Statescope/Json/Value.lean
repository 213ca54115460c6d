-- SUMMARY: Free-form JSON data: what a document means when no type is expected.
import Statescope.Json.Decoder
import Statescope.Json.Printer

/-!
# Free-form data

The meaning of a document of any shape. Members are sorted by key and not
repeated; a number is an integer if it is spelled as one and fits into 64 bits,
with or without sign, and the nearest double otherwise.
-/

namespace Statescope

inductive Value where
  | null
  | bool (b : Bool)
  | integer (n : Int)
  | float (x : Float)
  | text (s : String)
  | list (items : List Value)
  | record (members : List (String × Value))

namespace Value

/-! ## Writing -/

mutual

def toJson : Value → Json
  | .null => .null
  | .bool b => .bool b
  | .integer n => .integer n
  | .float x => .float x
  | .text s => .text s
  | .list items => .array (itemsToJson items)
  | .record members => .object (membersToJson members)

def itemsToJson : List Value → List Json
  | [] => []
  | v :: vs => v.toJson :: itemsToJson vs

def membersToJson : List (String × Value) → List (Option String × Json)
  | [] => []
  | (key, v) :: ms => (some key, v.toJson) :: membersToJson ms

end

/-! ## Reading -/

/-- An integer from `-2^63` to below `2^64` stays one. -/
def ofNumeral? (n : Numeral) : Option Value :=
  match n.toInt? with
  | some i => if -9223372036854775808 ≤ i ∧ i < 18446744073709551616 then some (.integer i) else n.toFloat?.map .float
  | none => n.toFloat?.map .float

mutual

def decoder : Decoder Value
  | _, .null => some .null
  | _, .bool b => some (.bool b)
  | _, .number n => ofNumeral? n
  | _, .string s => s.map .text
  | 0, .array _ => none
  | 0, .object _ => none
  | depth + 1, .array items => (itemsOfJson depth items).map .list
  | depth + 1, .object ms => (membersOfJson depth ms).map fun ps => .record (Dict.ofPairs ps).toList

def itemsOfJson : Nat → List Json → Option (List Value)
  | _, [] => some []
  | depth, j :: js => do return (← decoder depth j) :: (← itemsOfJson depth js)

def membersOfJson : Nat → List (Option String × Json) → Option (List (String × Value))
  | _, [] => some []
  | depth, (key, j) :: ms => do return (← key, ← decoder depth j) :: (← membersOfJson depth ms)

end

end Value

end Statescope
