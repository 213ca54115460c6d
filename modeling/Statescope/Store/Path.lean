-- SUMMARY: Paths of files: bytes that need not spell a text.
import Statescope.Store.Blob

/-!
# Paths

A path is a sequence of bytes. Only one that is UTF-8 can be written into a
document.
-/

namespace Statescope

structure Path where
  raw : Blob
deriving DecidableEq

namespace Path

def ofText (s : String) : Path := ⟨.ofText s⟩

/-- The text of a path that is UTF-8. -/
def text? (p : Path) : Option String := p.raw.text?

@[simp] theorem text?_ofText (s : String) : (ofText s).text? = some s := Blob.text?_ofText s

theorem text?_eq_some_iff {p : Path} {s : String} : p.text? = some s ↔ p = ofText s := by
  constructor
  · intro h
    obtain ⟨b⟩ := p
    exact congrArg Path.mk (Blob.text?_eq_some_iff.1 h)
  · rintro rfl
    exact text?_ofText s

end Path

end Statescope
