-- SUMMARY: What a replay reports while it runs, and the lines of text it reports it in.
import Statescope.Explorer.Basic
import Statescope.Text.Quoted

/-!
# Events

A replay reports every snapshot it applies or skips. A report is one line: a
level, a message, and fields. Texts in fields are quoted, paths and names are
not.
-/

namespace Statescope.Replay

inductive Event where
  | storeReady (path : String)
  /-- The first snapshot has started the diagram. -/
  | started (d : Diagram)
  | applied (line : Nat) (d : Diagram)
  | skipped (line : Nat)
  | finished (rendered : Nat)
  | exported (path : String)
  | nothingToExport
deriving DecidableEq

namespace Event

/-! ## Values of fields -/

def quoted (s : String) : String := String.ofList (Text.quoted s.toList)

def flag (b : Bool) : String := if b then "true" else "false"

/-- Doubles have a power from `1e16` up and below `1e-4`. -/
def floatStyle : Numeral.Style := ⟨-4, 16⟩

def float (x : Float) : String :=
  match Numeral.ofFloat? floatStyle x with
  | some n => String.ofList (n.render [])
  | none => ""

def pair (a b : String) : String := "(" ++ a ++ ", " ++ b ++ ")"

def listing (items : List String) : String := "[" ++ ", ".intercalate items ++ "]"

/-! ## Lines -/

def isWarning : Event → Bool
  | .skipped _ | .nothingToExport => true
  | _ => false

def message : Event → String
  | .storeReady _ => "config store ready"
  | .started _ => "diagram initialized"
  | .applied .. => "snapshot applied"
  | .skipped _ => "snapshot skipped"
  | .finished _ => "replay finished"
  | .exported _ => "layouts exported"
  | .nothingToExport => "no layouts to export"

/-- The fields for a diagram that has been started. -/
def startFields (d : Diagram) : List (String × String) :=
  [("fingerprint", d.drawing.fingerprint.text), ("layout", d.drawing.layout.name),
    ("restored", flag d.restored), ("tappable", toString d.drawing.tappable.length)]

/-- The fields for a diagram after a snapshot. -/
def viewFields (d : Diagram) : List (String × String) :=
  [("trace", quoted (d.panel.trace.getD "")),
    ("flashed", listing (d.drawing.flashed.map quoted)),
    ("enabled", listing (d.panel.buttons.map (quoted ·.caption))),
    ("undo", flag d.panel.undoEnabled),
    ("deadlock", quoted (d.panel.deadlockText?.getD "")),
    ("clocks", listing (d.panel.clocks.map fun (name, x) => pair (quoted name) (float x))),
    ("variables", listing (d.panel.vars.map fun (name, t) => pair (quoted name) (quoted t)))]

def fields : Event → List (String × String)
  | .storeReady path => [("store", path)]
  | .started d => startFields d
  | .applied line d => ("line", toString line) :: viewFields d
  | .skipped line => [("line", toString line)]
  | .finished rendered => [("rendered", toString rendered)]
  | .exported path => [("path", path)]
  | .nothingToExport => []

/-- The line of an event. -/
def text (e : Event) : String :=
  " ".intercalate <|
    (if e.isWarning then "WARN" else "INFO") :: e.message
      :: e.fields.map fun (name, value) => name ++ "=" ++ value

end Event

end Statescope.Replay
