-- SUMMARY: Fingerprints of element lists: a rolling hash of their JSON text, in eight hexadecimal digits.
import Statescope.Graph.Element
import Statescope.Json.Printer

/-!
# Fingerprints

A fingerprint stands for an ordered list of elements. It is the polynomial with
base 31 over the UTF-16 code units of the compact JSON text, modulo `2 ^ 32`.
Layouts are stored under a key made from it.
-/

namespace Statescope

structure Fingerprint where
  text : String
deriving DecidableEq

namespace Fingerprint

/-! ## Hashing -/

/-- The UTF-16 code units of a character: itself, or a surrogate pair. -/
def codeUnits (c : Char) : List UInt32 :=
  if c.val < 0x10000 then [c.val]
  else [0xD800 + (c.val - 0x10000) / 0x400, 0xDC00 + (c.val - 0x10000) % 0x400]

/-- One step of the hash, with wrap-around. -/
def absorb (hash unit : UInt32) : UInt32 := hash * 31 + unit

def rollingHash (text : List Char) : UInt32 := (text.flatMap codeUnits).foldl absorb 0

/-- The last `width` hexadecimal digits, with leading zeros. -/
def hexDigits : Nat → Nat → List Char
  | 0, _ => []
  | width + 1, n => hexDigits width (n / 16) ++ [Nat.digitChar (n % 16)]

/-! ## Fingerprints -/

/-- The text that is hashed. -/
def serialize (elements : List Element) : String := (Json.array (elements.map (·.toJson))).compact

def ofElements (elements : List Element) : Fingerprint :=
  ⟨String.ofList (hexDigits 8 (rollingHash (serialize elements).toList).toNat)⟩

def toJson (fp : Fingerprint) : Json := .text fp.text

def decoder : Decoder Fingerprint := fun depth j => (Decoder.text depth j).map .mk

/-! ## Keys -/

/-- What every key of a stored layout starts with. -/
def keyPrefix : List Char := "layout:".toList

def layoutKey (fp : Fingerprint) : String := String.ofList (keyPrefix ++ fp.text.toList)

/-- Whether the key stands in the namespace of layouts. -/
def isLayoutKey (key : String) : Bool := keyPrefix.isPrefixOf key.toList

/-- The fingerprint of a layout key, unless it is empty. -/
def ofLayoutKey? (key : String) : Option Fingerprint :=
  match keyPrefix.isPrefixOf key.toList, key.toList.drop keyPrefix.length with
  | true, c :: cs => some ⟨String.ofList (c :: cs)⟩
  | _, _ => none

end Fingerprint

end Statescope
