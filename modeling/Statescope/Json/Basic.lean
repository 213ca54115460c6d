-- SUMMARY: JSON documents as they are written: numbers as numerals, members in their order.
import Statescope.Dict
import Statescope.Number.Numeral

/-!
# JSON documents

`Json` is the structure of a JSON text and nothing more: numbers keep their
spelling, objects keep the order and the repetitions of their members, and a
text that spells half of a surrogate pair, or holds bytes that are no UTF-8, is
there without a content (`none`). What a reader makes of all this is decided by
the decoders.
-/

namespace Statescope

inductive Json where
  | null
  | bool (b : Bool)
  | number (n : Numeral)
  | string (text : Option String)
  | array (items : List Json)
  | object (members : List (Option String × Json))

namespace Json

def text (s : String) : Json := .string (some s)

def integer (n : Int) : Json := .number (.ofInt n)

/-- Doubles are written positionally from `0.00001` up to below `10 ^ 16`. -/
def floatStyle : Numeral.Style := ⟨-5, 16⟩

/-- What is no number is written as `null`. -/
def float (x : Float) : Json :=
  match Numeral.ofFloat? floatStyle x with
  | some n => .number n
  | none => .null

/-- An object with the given members. -/
def record (members : List (String × Json)) : Json :=
  .object (members.map fun (key, value) => (some key, value))

/-- The object of a dictionary, in key order. -/
def dict (encode : α → Json) (d : Dict α) : Json :=
  record (d.toList.map fun (key, value) => (key, encode value))

/-- A member that is left out when there is nothing to write. -/
def optional (key : String) (encode : α → Json) : Option α → List (String × Json)
  | none => []
  | some value => [(key, encode value)]

end Json

end Statescope
