-- SUMMARY: Blobs: stored bytes, the text they spell, and what a JSON reader gets to see of them.
import Statescope.Json.Parser

/-!
# Blobs

A blob is a sequence of bytes, usually but not necessarily UTF-8.
-/

namespace Statescope

structure Blob where
  bytes : ByteArray

namespace Blob

theorem eq_iff {a b : Blob} : a = b ↔ a.bytes.data = b.bytes.data := by
  obtain ⟨⟨xs⟩⟩ := a
  obtain ⟨⟨ys⟩⟩ := b
  simp

instance : DecidableEq Blob := fun _ _ => decidable_of_iff _ eq_iff.symm

def isEmpty (b : Blob) : Bool := b.bytes.isEmpty

def ofText (s : String) : Blob := ⟨s.toUTF8⟩

/-- The text of a blob that is UTF-8. -/
def text? (b : Blob) : Option String := String.fromUTF8? b.bytes

@[simp] theorem text?_ofText (s : String) : (ofText s).text? = some s := by
  simp [text?, ofText, String.fromUTF8?, String.toUTF8, s.isValidUTF8]
  rfl

theorem text?_eq_some_iff {b : Blob} {s : String} : b.text? = some s ↔ b = ofText s := by
  constructor
  · intro h
    unfold text? String.fromUTF8? at h
    split at h
    · cases h
      rfl
    · cases h
  · rintro rfl
    exact text?_ofText s

/-- The character that the bytes begin with, and the bytes after it. -/
def firstChar? (bytes : List UInt8) : Option (Char × List UInt8) :=
  [1, 2, 3, 4].findSome? fun n => do
    let s ← String.fromUTF8? ⟨(bytes.take n).toArray⟩
    match s.toList with
    | [c] => some (c, bytes.drop n)
    | _ => none

/-- The characters of the bytes, with a gap for each byte that belongs to none.
`fuel` is the number of bytes. -/
def characters : Nat → List UInt8 → Json.Source
  | 0, _ => []
  | _, [] => []
  | fuel + 1, b :: bs =>
    match firstChar? (b :: bs) with
    | some (c, rest) => some c :: characters fuel rest
    | none => none :: characters fuel bs

/-- What a JSON reader gets to see of a blob. -/
def source (b : Blob) : Json.Source :=
  match b.text? with
  | some s => .ofText s
  | none => characters b.bytes.size b.bytes.toList

@[simp] theorem source_ofText (s : String) : (ofText s).source = .ofText s := by
  simp [source]

end Blob

end Statescope
