-- SUMMARY: What the program runs on: the files it can read, and the words of its reader of JSON.
import Statescope.Json.Wording
import Statescope.Store.Path

/-!
# Hosts
-/

namespace Statescope

structure Host where
  /-- The content of a file that can be read. -/
  file? : Path → Option Blob := fun _ => none
  wording : Wording := {}

end Statescope
