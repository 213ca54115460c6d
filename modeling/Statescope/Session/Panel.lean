-- SUMMARY: What the side panel shows: trace, buttons, clocks, variables, and the sign of a deadlock.
import Statescope.Json.Printer
import Statescope.Session.Trace

/-!
# The side panel

The panel of a diagram is worked out from the data of the last snapshot and the
trace so far.
-/

namespace Statescope

structure PanelButton where
  caption : String
  transition : Transition
deriving DecidableEq

structure PanelView where
  undoEnabled : Bool := false
  trace : Option String := none
  buttons : List PanelButton := []
  clocks : List (String × Float) := []
  vars : List (String × String) := []
deriving DecidableEq

namespace PanelView

/-- The caption that came with the transition, or else its label, or else its ends. -/
def caption (e : EnabledTransition) : String :=
  if e.caption ≠ "" then e.caption
  else if e.transition.label ≠ "" then e.transition.label
  else e.transition.source ++ " -> " ++ e.transition.target

def button (e : EnabledTransition) : PanelButton := ⟨caption e, e.transition⟩

/-- Texts are shown as they are, other data as compact JSON. -/
def variableText : Value → String
  | .text s => s
  | v => v.toJson.compact

def build (data : PanelData) (trace : Trace) : PanelView where
  undoEnabled := data.canUndo
  trace := if trace.isEmpty then none else some trace.text
  buttons := data.enabled.map button
  clocks := data.clocks.toList
  vars := data.vars.toList.map fun (name, v) => (name, variableText v)

/-- Whether no transition can be taken. -/
def isDeadlocked (v : PanelView) : Bool := v.buttons.isEmpty

def deadlockText? (v : PanelView) : Option String :=
  if v.isDeadlocked then some "- Deadlock -" else none

/-- The button that takes the transition, if there is one. -/
def buttonFor? (v : PanelView) (t : Transition) : Option PanelButton :=
  v.buttons.find? (·.transition = t)

end PanelView

end Statescope
