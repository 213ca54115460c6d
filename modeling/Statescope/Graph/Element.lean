-- SUMMARY: Nodes and edges of a diagram, their coordinates, and their JSON form.
import Statescope.Json.Decoder

/-!
# Elements

A diagram is a list of elements: nodes for the states of a model, nodes for the
actions that lead from one state to another, and the edges that connect them.
-/

namespace Statescope

/-! ## Positions -/

/-- A point of the canvas. -/
structure Position where
  x : Float
  y : Float
deriving DecidableEq

namespace Position

def origin : Position := ⟨0, 0⟩

def midpoint (p q : Position) : Position := ⟨(p.x + q.x) / 2, (p.y + q.y) / 2⟩

def toJson (p : Position) : Json := .record [("x", .float p.x), ("y", .float p.y)]

def decoder : Decoder Position :=
  .record ["x", "y"] fun f => do return ⟨← f.required "x" .float, ← f.required "y" .float⟩

end Position

/-! ## Kinds and classes -/

inductive ElementKind where
  | state
  | action
  | connector
deriving DecidableEq

namespace ElementKind

def names : List (String × ElementKind) :=
  [("state-node", .state), ("event-node", .action), ("connector-edge", .connector)]

def name : ElementKind → String
  | .state => "state-node"
  | .action => "event-node"
  | .connector => "connector-edge"

def toJson (k : ElementKind) : Json := .text k.name

def decoder : Decoder ElementKind := .named names

end ElementKind

/-- Marks an action that can be fired. -/
def enabledClass : String := "enabled"

/-- Marks the nodes that stand for actions. -/
def actionClass : String := "event-node"

/-- Marks the state that the model is in. -/
def currentClass : String := "current-state"

/-- Marks for a moment what the last transition went through. -/
def flashClass : String := "transition-flash"

/-! ## Elements -/

/-- A node or an edge. Edges have a source and a target, nodes may have a position. -/
structure Element where
  id : String
  kind : ElementKind
  label : String := ""
  classes : Tags := ∅
  source : Option String := none
  target : Option String := none
  position : Option Position := none
deriving DecidableEq

namespace Element

def isNode (e : Element) : Bool := e.kind ≠ .connector

def hasClass (e : Element) (c : String) : Bool := e.classes.contains c

/-- An action node that may be fired. -/
def isEnabledAction (e : Element) : Bool := e.kind = .action && e.hasClass enabledClass

def toJson (e : Element) : Json :=
  .record <|
    [("id", .text e.id), ("kind", e.kind.toJson), ("label", .text e.label),
      ("classes", .array (e.classes.toList.map .text))]
    ++ Json.optional "source" .text e.source
    ++ Json.optional "target" .text e.target
    ++ Json.optional "position" Position.toJson e.position

def decoder : Decoder Element :=
  .record ["id", "kind", "label", "classes", "source", "target", "position"] fun f => do
    return {
      id := ← f.required "id" .text
      kind := ← f.required "kind" ElementKind.decoder
      label := ← f.default "label" .text ""
      classes := Tags.ofTexts (← f.default "classes" (.list .text) [])
      source := ← f.optional "source" .text
      target := ← f.optional "target" .text
      position := ← f.optional "position" Position.decoder }

/-- The ids of the nodes among the elements. -/
def nodeIds (elements : List Element) : Tags :=
  Tags.ofTexts ((elements.filter isNode).map id)

/-- The positions by id; of two elements with one id the later counts. -/
def positions (elements : List Element) : Dict Position :=
  Dict.ofPairs (elements.filterMap fun e => e.position.map fun p => (e.id, p))

end Element

end Statescope
