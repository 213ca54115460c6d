-- SUMMARY: Typed readers of JSON documents: scalars, lists, dictionaries, records and enumerations.
import Statescope.Json.Parser

/-!
# Decoding JSON

A decoder turns a document into a value of some type, or refuses it. It is given
the number of arrays and objects that may still be opened; what is skipped does
not count, whatever its depth. Records are read from an object, where unknown
members are skipped and a known one must not be repeated, or from an array of
their fields in order.
-/

namespace Statescope

abbrev Decoder (α : Type) := Nat → Json → Option α

namespace Decoder

/-- How many arrays and objects may be opened, one inside the other. -/
def depthLimit : Nat := 127

/-- Reads a whole source. -/
def read? (d : Decoder α) (s : Json.Source) : Option α := s.document? >>= d depthLimit

/-- Reads a whole text. -/
def readText? (d : Decoder α) (s : String) : Option α := d.read? (.ofText s)

/-! ## Scalars -/

def text : Decoder String
  | _, .string s => s
  | _, _ => none

def bool : Decoder Bool
  | _, .bool b => some b
  | _, _ => none

/-- Any number, as the nearest double; one that is too large is refused. -/
def float : Decoder Float
  | _, .number n => n.toFloat?
  | _, _ => none

/-- A natural number below the bound, written without sign, point and power. -/
def natural (bound : Nat) : Decoder Nat
  | _, .number n => do
    guard (n.negative = false)
    let i ← n.toInt?
    guard (i.toNat < bound)
    return i.toNat
  | _, _ => none

/-- Like `d`, with `null` for nothing. -/
def nullable (d : Decoder α) : Decoder (Option α)
  | _, .null => some none
  | depth, j => (d depth j).map some

/-! ## Lists, dictionaries and enumerations -/

def list (d : Decoder α) : Decoder (List α)
  | depth + 1, .array items => items.mapM (d depth)
  | _, _ => none

/-- The members of an object, all of whose keys must have a content. -/
def members (d : Decoder α) : Decoder (List (String × α))
  | depth + 1, .object ms => ms.mapM fun (key, value) => do return (← key, ← d depth value)
  | _, _ => none

/-- An object as a dictionary. Of a repeated key the last value counts, but every
value must be readable. -/
def dict (d : Decoder α) : Decoder (Dict α) := fun depth j => (members d depth j).map Dict.ofPairs

/-- One of the named values, written as its name, or as an object whose one member
has this name and the value `null`. -/
def named (values : List (String × α)) : Decoder α
  | _, .string (some name) => values.lookup name
  | _ + 1, .object [(some name, .null)] => values.lookup name
  | _, _ => none

/-! ## Records -/

/-- What a document has to say about the fields of a record. -/
structure Fields where
  depth : Nat
  find? : String → Option Json

namespace Fields

def required (f : Fields) (name : String) (d : Decoder α) : Option α :=
  f.find? name >>= d f.depth

/-- A field that may be missing. -/
def default (f : Fields) (name : String) (d : Decoder α) (value : α) : Option α :=
  match f.find? name with
  | none => some value
  | some j => d f.depth j

/-- A field that may be missing or `null`. -/
def optional (f : Fields) (name : String) (d : Decoder α) : Option (Option α) :=
  f.default name (nullable d) none

end Fields

/-- The value of a key among the members; none is repeated. -/
def member? (ms : List (Option String × Json)) (name : String) : Option Json :=
  ms.lookup (some name)

/-- Whether every key has a content and none of the names occurs twice. -/
def wellKeyed (names : List String) (ms : List (Option String × Json)) : Bool :=
  ms.all (·.1.isSome) && names.all fun name => (ms.filter (·.1 = some name)).length ≤ 1

/-- A record with these fields, written as an object, or as an array of the fields
in this order, from which the last ones may be missing. -/
def record (names : List String) (build : Fields → Option α) : Decoder α
  | depth + 1, .object ms => if wellKeyed names ms then build ⟨depth, member? ms⟩ else none
  | depth + 1, .array items =>
    if items.length ≤ names.length then build ⟨depth, fun name => (names.zip items).lookup name⟩
    else none
  | _, _ => none

end Decoder

end Statescope
