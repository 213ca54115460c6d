-- SUMMARY: Placing the nodes of a diagram by an oracle, actions in the middle where it knows no better.
import Statescope.Oracle.Basic

/-!
# Placement

An oracle places states by id and actions by label. An action that it does not
know, and that has no position of its own, goes halfway between the node its
first incoming edge comes from and the node its first outgoing edge leads to,
provided that both are placed by then.
-/

namespace Statescope

/-- What a placement did: how many nodes the oracle placed, how many went halfway,
and which nodes are left without a position. -/
structure Placement where
  direct : Nat
  interpolated : Nat
  unplaced : List String
deriving DecidableEq

/-- Whether some node received a position. -/
def Placement.anyPlaced (p : Placement) : Bool := 0 < p.direct + p.interpolated

namespace PositionOracle

/-! ## Known nodes -/

/-- Where the oracle puts an element. -/
def find? (o : PositionOracle) (e : Element) : Option Position :=
  match e.kind with
  | .state => o.nodes[e.id]?
  | .action => o.labels[e.label]?
  | .connector => none

def placeKnown (o : PositionOracle) (e : Element) : Element :=
  match o.find? e with
  | some p => { e with position := some p }
  | none => e

/-! ## Midpoints -/

/-- The ends of the edges that have both. -/
def connections (elements : List Element) : List (String × String) :=
  elements.filterMap fun e =>
    match e.kind, e.source, e.target with
    | .connector, some source, some target => some (source, target)
    | _, _, _ => none

/-- Halfway between the neighbours of an action. -/
def midpoint? (elements : List Element) (e : Element) : Option Position := do
  guard (e.kind = .action)
  let connections := connections elements
  let incoming ← connections.find? (·.2 = e.id)
  let outgoing ← connections.find? (·.1 = e.id)
  let positions := Element.positions elements
  return (← positions[incoming.1]?).midpoint (← positions[outgoing.2]?)

def needsPosition (e : Element) : Bool := e.isNode && e.position.isNone

/-- The midpoints of all nodes that need one. -/
def midpoints (elements : List Element) : Dict Position :=
  Dict.ofPairs <| (elements.filter needsPosition).filterMap fun e =>
    (midpoint? elements e).map fun p => (e.id, p)

/-! ## Placing -/

def placeMidpoint (midpoints : Dict Position) (e : Element) : Element :=
  match midpoints[e.id]? with
  | some p => { e with position := some p }
  | none => e

/-- Places the elements and says what was done. -/
def place (o : PositionOracle) (elements : List Element) : List Element × Placement :=
  let known := elements.map o.placeKnown
  let middle := midpoints known
  (known.map (placeMidpoint middle),
    { direct := (elements.filter fun e => (o.find? e).isSome).length
      interpolated := (known.filter fun e => middle.contains e.id).length
      unplaced := ((known.filter needsPosition).filter fun e =>
        (midpoint? known e).isNone).map (·.id) })

end PositionOracle

end Statescope
