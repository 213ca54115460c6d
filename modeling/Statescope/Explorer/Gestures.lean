-- SUMMARY: What the user does to a diagram: taps, buttons, undo, auto-advance, drags and layouts.
import Statescope.Explorer.Basic

/-!
# Gestures

Gestures go to the diagram of a container; without a diagram nothing happens.
Taking a transition or stepping back stops the timer first.
-/

namespace Statescope.Explorer

/-! ## Driving the model -/

def stopTimer (e : Explorer σ) (container : String) : Explorer σ :=
  { e with timers := e.timers.cancel container }

/-- Takes a transition. -/
def fire (e : Explorer σ) (container : String) (t : Transition) : Explorer σ :=
  (e.stopTimer container).call container (.take t.payload)

/-- A tap on an element. Gives the transition taken. -/
def tap (e : Explorer σ) (container id : String) : Option Transition × Explorer σ :=
  match e.diagrams[container]? >>= (·.drawing.resolveTap? id) with
  | some t => (some t, e.fire container t)
  | none => (none, e)

/-- The button of a transition. Says whether there is one. -/
def click (e : Explorer σ) (container : String) (t : Transition) : Bool × Explorer σ :=
  if e.diagrams[container]?.any fun d => (d.panel.buttonFor? t).isSome then
    (true, e.fire container t)
  else (false, e)

/-- The undo button. Says whether it is enabled. -/
def undo (e : Explorer σ) (container : String) : Bool × Explorer σ :=
  if e.diagrams[container]?.any (·.panel.undoEnabled) then
    (true, (e.stopTimer container).call container .undo)
  else (false, e)

/-- Starts the timer of a container, which advances the model at once. A delay that is
no duration would be refused. -/
def startTimer (e : Explorer σ) (container : String) (seconds : Float) : Explorer σ :=
  let delay := clampDelay seconds
  if e.isRunning container || !isDuration delay then e
  else { e with timers := e.timers.start container delay e.now }.call container (.advance delay)

/-- Switches auto-advance on or off; without a delay the preferences say it. Says
whether the timer runs afterwards. -/
def setAutoAdvance (e : Explorer σ) (container : String) (enabled : Bool) (seconds : Option Float) :
    Bool × Explorer σ :=
  if e.diagrams.contains container then
    let e := if enabled then e.startTimer container (seconds.getD e.prefs.autoAdvanceDelay)
      else e.stopTimer container
    (e.isRunning container, e)
  else (false, e)

/-! ## Arranging the diagram -/

variable [BlobStore σ]

/-- The state with another drawing in a container, and with another store. -/
def withDrawing (e : Explorer σ) (container : String) (d : Diagram) (drawing : Drawing)
    (store : LayoutStore σ) : Explorer σ :=
  { e with diagrams := e.diagrams.insert container { d with drawing }, store }

/-- A drag of a node; the layout is saved at once. -/
def moveNode (e : Explorer σ) (container id : String) (p : Position) : Explorer σ :=
  match e.diagrams[container]? with
  | none => e
  | some d =>
    let (result, drawing, store) := d.drawing.moveNode id p e.store
    let e := e.withDrawing container d drawing store
    match result with
    | .ok () => e
    | .error cause =>
      e.notify .warning (.container container) "Layout not saved" (some (cause.message e.host.wording)) e.now

/-- The choice of a layout by name. Gives the layout that was run. -/
def selectLayout (e : Explorer σ) (container name : String) : Option LayoutKind × Explorer σ :=
  match e.diagrams[container]? with
  | none => (none, e)
  | some d =>
    match LayoutKind.ofName? name with
    | some kind => (some kind, e.withDrawing container d (d.drawing.selectLayout kind) e.store)
    | none =>
      (none, e.notify .error (.container container) "Unknown layout"
        (some (LayoutKind.unknownMessage name)) e.now)

/-! ## Bundles -/

/-- The text of a bundle of all saved layouts, if there are any. -/
def exportLayouts (e : Explorer σ) (container : String) : Option String × Explorer σ :=
  if e.diagrams.contains container then
    let (result, store) := e.store.exportText
    let e := { e with store }
    match result with
    | .ok text => (some text, e)
    | .error .empty => (none, e.notify .info .everywhere "No saved layouts to export" none e.now)
    | .error cause =>
      (none, e.notify .error .everywhere "Layout export failed" (some (cause.message e.host.wording)) e.now)
  else (none, e)

/-- Imports a bundle, and restores the layout of the diagram if the bundle had one.
Gives the number of layouts imported. -/
def importLayouts (e : Explorer σ) (container text : String) : Option Nat × Explorer σ :=
  match e.diagrams[container]? with
  | none => (none, e)
  | some d =>
    let (result, store) := e.store.importText text
    match result with
    | .ok fps =>
      let (_, drawing, store) :=
        if d.drawing.fingerprint ∈ fps then d.drawing.restore store else (false, d.drawing, store)
      let e := e.withDrawing container d drawing store
      let e := if fps.isEmpty then e.notify .warning .everywhere "No layouts found in file" none e.now
        else e.notify .info .everywhere (toString fps.length ++ " layouts loaded") none e.now
      (some fps.length, e)
    | .error cause =>
      let e := { e with store }
      (none, e.notify .error .everywhere "Layout import failed" (some (cause.message e.host.wording)) e.now)

end Statescope.Explorer
