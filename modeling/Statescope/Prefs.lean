-- SUMMARY: Preferences: timing, the layout to start with, and a bundle to seed layouts from.
import Statescope.Canvas.Layout
import Statescope.Clock.Timer
import Statescope.Store.Documents
import Statescope.Store.Path

/-!
# Preferences

Preferences are stored as one document. Whatever they say, the program uses them
within sensible bounds.
-/

namespace Statescope

structure Prefs where
  /-- Seconds of model time per tick of a timer. -/
  autoAdvanceSeconds : Float := 1
  /-- How long the last transition is highlighted, in milliseconds. -/
  flashMillis : Nat := 1000
  /-- How long the first snapshot of a diagram waits for an oracle, in milliseconds. -/
  oracleMillis : Nat := 5000
  layout : String := "dagre"
  /-- The file of layouts that an empty store starts with. -/
  seedBundle : Option Path := none
deriving DecidableEq

namespace Prefs

/-! ## JSON -/

/-- The document of a path, which has to be UTF-8, or of none. -/
def pathToJson? : Option Path → Option Json
  | some path => path.text?.map .text
  | none => some .null

/-- The document of preferences. There is none if the path cannot be written. -/
def toJson? (p : Prefs) : Option Json := do
  let path ← pathToJson? p.seedBundle
  return .record [("auto_advance_secs", .float p.autoAdvanceSeconds),
    ("flash_ms", .integer p.flashMillis), ("oracle_timeout_ms", .integer p.oracleMillis),
    ("layout", .text p.layout), ("seed_bundle", path)]

def decoder : Decoder Prefs :=
  .record ["auto_advance_secs", "flash_ms", "oracle_timeout_ms", "layout", "seed_bundle"] fun f => do
    let d : Prefs := {}
    return {
      autoAdvanceSeconds := ← f.default "auto_advance_secs" .float d.autoAdvanceSeconds
      flashMillis := ← f.default "flash_ms" (.natural (1 <<< 64)) d.flashMillis
      oracleMillis := ← f.default "oracle_timeout_ms" (.natural (1 <<< 64)) d.oracleMillis
      layout := ← f.default "layout" .text d.layout
      seedBundle := (← f.optional "seed_bundle" .text).map .ofText }

/-! ## Use -/

/-- How long the last transition is highlighted: from half a second to a second. -/
def flashDuration (p : Prefs) : Nat := millis (max 500 (min 1000 p.flashMillis))

/-- How long the first snapshot of a diagram waits for an oracle. -/
def oracleBudget (p : Prefs) : Nat := millis p.oracleMillis

def autoAdvanceDelay (p : Prefs) : Float := clampDelay p.autoAdvanceSeconds

/-- The layout for diagrams that no oracle has placed. -/
def fallbackLayout (p : Prefs) : LayoutKind := (LayoutKind.ofName? p.layout).getD .dagre

theorem flashDuration_bounds (p : Prefs) :
    millis 500 ≤ p.flashDuration ∧ p.flashDuration ≤ millis 1000 := by
  simp only [flashDuration, millis, nanosPerMilli]
  omega

/-! ## Storage -/

def key : String := "prefs"

/-- The stored preferences, if they can be read. -/
def load? [BlobStore σ] (store : σ) : Option Prefs := (Documents.load store key decoder).toOption.join

/-- Stores the preferences as far as the store allows, if they can be written. -/
def save [BlobStore σ] (store : σ) (p : Prefs) : σ :=
  match p.toJson? with
  | some document => (Documents.save store key document).2
  | none => store

end Prefs

end Statescope
