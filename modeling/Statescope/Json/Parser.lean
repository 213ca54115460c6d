-- SUMMARY: The JSON grammar: the document of a text, or nothing when the text is malformed.
import Statescope.Json.Basic

/-!
# Reading JSON

The strict grammar: no comments, no trailing commas, no superfluous zeros, and
nothing but blanks around the one value. A source is a list of characters in
which `none` stands for a byte that belongs to none; such a byte is tolerated
between quotes only, where it leaves the text without content.

`fuel` bounds the calls and is the length of the source, which suffices as every
call reads at least one character before the next one.
-/

namespace Statescope.Json

/-- What is read: characters, and gaps where the bytes are no characters. -/
abbrev Source := List (Option Char)

namespace Source

/-! ## Blanks and words -/

def isBlank (c : Char) : Bool := c = ' ' || c = '\t' || c = '\n' || c = '\r'

def skipBlanks : Source → Source
  | some c :: rest => if isBlank c then skipBlanks rest else some c :: rest
  | rest => rest

/-- The rest of the source after the given characters. -/
def dropWord? : List Char → Source → Option Source
  | [], rest => some rest
  | c :: word, some c' :: rest => if c = c' then dropWord? word rest else none
  | _ :: _, _ => none

/-! ## Texts -/

/-- What can stand between quotes: a character, an escaped UTF-16 code unit, or a
byte that belongs to no character. -/
inductive Piece where
  | char (c : Char)
  | unit (n : Nat)
  | gap

/-- The value of a hexadecimal digit. -/
def hexDigit? (c : Char) : Option Nat :=
  if '0' ≤ c ∧ c ≤ '9' then some (c.toNat - '0'.toNat)
  else if 'a' ≤ c ∧ c ≤ 'f' then some (c.toNat - 'a'.toNat + 10)
  else if 'A' ≤ c ∧ c ≤ 'F' then some (c.toNat - 'A'.toNat + 10)
  else none

/-- The character behind a backslash, other than `u`. -/
def escaped? : Char → Option Char
  | '"' => some '"'
  | '\\' => some '\\'
  | '/' => some '/'
  | 'b' => some '\x08'
  | 'f' => some '\x0c'
  | 'n' => some '\n'
  | 'r' => some '\r'
  | 't' => some '\t'
  | _ => none

/-- The pieces up to the closing quote, and what follows it. -/
def pieces? : Source → Option (List Piece × Source)
  | some '"' :: rest => some ([], rest)
  | some '\\' :: some 'u' :: some a :: some b :: some c :: some d :: rest => do
    let n := (((← hexDigit? a) * 16 + (← hexDigit? b)) * 16 + (← hexDigit? c)) * 16 + (← hexDigit? d)
    let (ps, rest) ← pieces? rest
    return (.unit n :: ps, rest)
  | some '\\' :: some c :: rest => do
    let e ← escaped? c
    let (ps, rest) ← pieces? rest
    return (.char e :: ps, rest)
  | some c :: rest => do
    guard (c ≠ '\\' ∧ ' ' ≤ c)
    let (ps, rest) ← pieces? rest
    return (.char c :: ps, rest)
  | none :: rest => do
    let (ps, rest) ← pieces? rest
    return (.gap :: ps, rest)
  | [] => none

/-- The characters that the pieces spell. Two units that form a surrogate pair spell
one character; half a pair spells nothing. -/
def assemble? : List Piece → Option (List Char)
  | [] => some []
  | .gap :: _ => none
  | .char c :: ps => do return c :: (← assemble? ps)
  | .unit high :: .unit low :: ps =>
    if 0xD800 ≤ high ∧ high ≤ 0xDBFF ∧ 0xDC00 ≤ low ∧ low ≤ 0xDFFF then do
      let c := Char.ofNat (0x10000 + (high - 0xD800) * 0x400 + (low - 0xDC00))
      return c :: (← assemble? ps)
    else if 0xD800 ≤ high ∧ high ≤ 0xDFFF then none
    else do return Char.ofNat high :: (← assemble? (.unit low :: ps))
  | .unit n :: ps =>
    if 0xD800 ≤ n ∧ n ≤ 0xDFFF then none
    else do return Char.ofNat n :: (← assemble? ps)

/-- A text whose opening quote has been read. -/
def text? (s : Source) : Option (Option String × Source) := do
  let (ps, rest) ← pieces? s
  return ((assemble? ps).map String.ofList, rest)

/-! ## Numbers -/

/-- The digits at the front, and what follows them. -/
def digits : Source → List (Fin 10) × Source
  | some c :: rest =>
    match Numeral.digit? c with
    | some d => let (ds, rest) := digits rest; (d :: ds, rest)
    | none => ([], some c :: rest)
  | rest => ([], rest)

/-- At least one digit. -/
def digits? (s : Source) : Option (List (Fin 10) × Source) :=
  match digits s with
  | ([], _) => none
  | (ds, rest) => some (ds, rest)

/-- Whether digits start with a zero that could be left out. -/
def isPadded : List (Fin 10) → Bool
  | d :: _ :: _ => d.val = 0
  | _ => false

/-- A whole number: `0`, or digits that start with another one. -/
def whole? (s : Source) : Option (Nat × Source) := do
  let (ds, rest) ← digits? s
  guard (!isPadded ds)
  return (Numeral.value ds, rest)

/-- A point and the digits after it, if there is a point. -/
def fraction? : Source → Option (List (Fin 10) × Source)
  | some '.' :: rest => digits? rest
  | rest => some ([], rest)

/-- A power of ten, if there is one. -/
def power? : Source → Option (Option Int × Source)
  | some c :: rest =>
    if c = 'e' ∨ c = 'E' then
      match rest with
      | some '-' :: rest => do
        let (ds, rest) ← digits? rest
        return (some (-(Numeral.value ds : Int)), rest)
      | some '+' :: rest => do
        let (ds, rest) ← digits? rest
        return (some (Numeral.value ds : Int), rest)
      | rest => do
        let (ds, rest) ← digits? rest
        return (some (Numeral.value ds : Int), rest)
    else some (none, some c :: rest)
  | rest => some (none, rest)

def numeral? (s : Source) : Option (Numeral × Source) := do
  let (negative, s) := match s with
    | some '-' :: rest => (true, rest)
    | rest => (false, rest)
  let (whole, s) ← whole? s
  let (fraction, s) ← fraction? s
  let (power, s) ← power? s
  return (⟨negative, whole, fraction, power⟩, s)

/-! ## Documents -/

mutual

/-- The value at the front of the source, blanks before it skipped. -/
def value? : Nat → Source → Option (Json × Source)
  | 0, _ => none
  | fuel + 1, s =>
    match skipBlanks s with
    | some 'n' :: rest => do return (.null, ← dropWord? "ull".toList rest)
    | some 't' :: rest => do return (.bool true, ← dropWord? "rue".toList rest)
    | some 'f' :: rest => do return (.bool false, ← dropWord? "alse".toList rest)
    | some '"' :: rest => do
      let (s, rest) ← text? rest
      return (.string s, rest)
    | some '[' :: rest =>
      match skipBlanks rest with
      | some ']' :: rest => some (.array [], rest)
      | rest => do
        let (items, rest) ← items? fuel rest
        return (.array items, rest)
    | some '\x7b' :: rest =>
      match skipBlanks rest with
      | some '\x7d' :: rest => some (.object [], rest)
      | rest => do
        let (members, rest) ← members? fuel rest
        return (.object members, rest)
    | rest => do
      let (n, rest) ← numeral? rest
      return (.number n, rest)

/-- One or more items and the closing bracket. -/
def items? : Nat → Source → Option (List Json × Source)
  | 0, _ => none
  | fuel + 1, s => do
    let (item, rest) ← value? fuel s
    match skipBlanks rest with
    | some ']' :: rest => return ([item], rest)
    | some ',' :: rest =>
      let (items, rest) ← items? fuel rest
      return (item :: items, rest)
    | _ => none

/-- One or more members and the closing brace. -/
def members? : Nat → Source → Option (List (Option String × Json) × Source)
  | 0, _ => none
  | fuel + 1, s =>
    match skipBlanks s with
    | some '"' :: rest => do
      let (key, rest) ← text? rest
      let rest ← dropWord? [':'] (skipBlanks rest)
      let (value, rest) ← value? fuel rest
      match skipBlanks rest with
      | some '\x7d' :: rest => return ([(key, value)], rest)
      | some ',' :: rest =>
        let (members, rest) ← members? fuel rest
        return ((key, value) :: members, rest)
      | _ => none
    | _ => none

end

/-- The document of a source that holds one value and nothing else. -/
def document? (s : Source) : Option Json := do
  let (j, rest) ← value? (s.length + 1) s
  guard (skipBlanks rest = [])
  return j

end Source

/-- The source of a text. -/
def Source.ofText (s : String) : Source := s.toList.map some

/-- The document that a text spells. -/
def parse? (s : String) : Option Json := (Source.ofText s).document?

end Statescope.Json
