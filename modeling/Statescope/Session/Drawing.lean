-- SUMMARY: One diagram on its surface, kept in step with the snapshots: layout, flash, taps, saved positions.
import Statescope.Canvas.Surface
import Statescope.Graph.Snapshot
import Statescope.Oracle.Placement
import Statescope.Prefs
import Statescope.Store.Layouts

/-!
# Drawings

The first snapshot of a diagram decides where its nodes are: by an oracle, by an
automatic layout, or by the layout that was saved for it. Every later snapshot
replaces the elements, and highlights for a while what its transition went
through. Saving and restoring go by the fingerprint of the first snapshot.
-/

namespace Statescope

/-- How a drawing is timed, and its layout if no oracle places it. -/
structure DrawingOptions where
  /-- How long a transition is highlighted. -/
  flashDuration : Nat
  fallback : LayoutKind
  /-- How long the first snapshot waits for an oracle. -/
  oracleBudget : Nat
deriving DecidableEq

def DrawingOptions.ofPrefs (p : Prefs) : DrawingOptions where
  flashDuration := p.flashDuration
  fallback := p.fallbackLayout
  oracleBudget := p.oracleBudget

/-- Highlighted elements, and when the highlight ends. -/
structure Flash where
  ids : List String
  deadline : Int
deriving DecidableEq

structure Drawing where
  surface : Surface
  fingerprint : Fingerprint
  index : ActionIndex
  layout : LayoutKind
  flash : Option Flash := none
  options : DrawingOptions
deriving DecidableEq

/-- Why a dragged node could not be kept where it is. -/
inductive MoveError where
  | surface (cause : SurfaceError)
  | layout (cause : LayoutError)
deriving DecidableEq

def MoveError.message (w : Wording) : MoveError → String
  | .surface cause => cause.message
  | .layout cause => cause.message w

namespace Drawing

/-! ## Looking -/

/-- The ids that are highlighted. -/
def flashed (d : Drawing) : List String :=
  match d.flash with
  | some flash => flash.ids
  | none => []

def deadline? (d : Drawing) : Option Int := d.flash.map (·.deadline)

/-- The ids of the nodes that can be tapped. -/
def tappable (d : Drawing) : List String := d.surface.select .enabledActions

/-- The transition that a tap on the element takes. -/
def resolveTap? (d : Drawing) (id : String) : Option Transition :=
  match d.surface.element? id with
  | some e => if e.isEnabledAction then d.index[id]? else none
  | none => none

/-! ## Saved layouts -/

variable [BlobStore σ]

/-- Saves where the nodes are. -/
def saveLayout (d : Drawing) (s : LayoutStore σ) : Except LayoutError Unit × LayoutStore σ :=
  s.save d.fingerprint d.surface.nodePositions

/-- Moves the nodes to where they were saved, if a layout was, and fits the view. Says
whether one was. -/
def restore (d : Drawing) (s : LayoutStore σ) : Bool × Drawing × LayoutStore σ :=
  match s.load d.fingerprint with
  | (some l, s) => (true, { d with surface := (d.surface.applyPositions l).fit }, s)
  | (none, s) => (false, d, s)

/-- Moves a node and saves where all of them are. -/
def moveNode (d : Drawing) (id : String) (p : Position) (s : LayoutStore σ) :
    Except MoveError Unit × Drawing × LayoutStore σ :=
  match d.surface.setPosition id p with
  | .error e => (.error (.surface e), d, s)
  | .ok surface =>
    let d := { d with surface }
    let (r, s) := d.saveLayout s
    (r.mapError .layout, d, s)

def selectLayout (d : Drawing) (kind : LayoutKind) : Drawing :=
  { d with surface := d.surface.runLayout (.ofKind kind), layout := kind }

/-! ## Snapshots -/

/-- The elements as an oracle places them, and whether it placed any. -/
def placed (oracle : Option PositionOracle) (elements : List Element) : List Element × Bool :=
  match oracle with
  | some o =>
    if o.isEmpty then (elements, false)
    else let (elements, placement) := o.place elements; (elements, placement.anyPlaced)
  | none => (elements, false)

/-- Draws the first snapshot of a diagram on a surface. Says whether a saved layout was
restored. -/
def first (surface : Surface) (snapshot : Snapshot) (oracle : Option PositionOracle)
    (options : DrawingOptions) (s : LayoutStore σ) :
    Except SurfaceError (Bool × Drawing) × LayoutStore σ :=
  let (elements, byOracle) := placed oracle snapshot.elements
  let layout := if byOracle then .preset else options.fallback
  match surface.load elements with
  | .error e => (.error e, s)
  | .ok surface =>
    let d : Drawing :=
      { surface := surface.runLayout (.ofKind layout)
        fingerprint := .ofElements snapshot.elements
        index := .ofSnapshot snapshot
        layout, options }
    let (restored, d, s) := d.restore s
    (.ok (restored, d), s)

/-- Highlights the elements of a transition that are on the surface. -/
def highlight (d : Drawing) (t : Transition) (now : Int) : Drawing :=
  match t.flashSet.filter d.surface.contains with
  | [] => d
  | ids =>
    { d with
      surface := d.surface.addClass ids flashClass
      flash := some ⟨ids, now + d.options.flashDuration⟩ }

/-- Draws a later snapshot. A highlight of the snapshot before is gone. -/
def update (d : Drawing) (snapshot : Snapshot) (now : Int) : Except SurfaceError Drawing :=
  match d.surface.load snapshot.elements with
  | .error e => .error e
  | .ok surface =>
    let d := { d with surface, flash := none, index := .ofSnapshot snapshot }
    .ok <| match snapshot.lastTransition with
      | some t => d.highlight t now
      | none => d

/-- Ends the highlight if its time is over. Says whether it was. -/
def expireFlash (d : Drawing) (now : Int) : Bool × Drawing :=
  match d.flash with
  | some flash =>
    if flash.deadline ≤ now then
      (true, { d with surface := d.surface.removeClass flash.ids flashClass, flash := none })
    else (false, d)
  | none => (false, d)

def dispose (d : Drawing) : Drawing := { d with surface := d.surface.dispose }

end Drawing

end Statescope
