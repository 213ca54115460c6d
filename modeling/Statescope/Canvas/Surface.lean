-- SUMMARY: The surface a diagram is drawn on: loaded elements with their classes and positions.
import Statescope.Canvas.Layout
import Statescope.FirstMatch
import Statescope.Graph.Element

/-!
# Surfaces

A surface holds exactly the elements that were loaded last. Nodes that come
without a position keep the one that their id had before. Layouts put the nodes
on a line, which is all that the rest of the program can tell of them.
-/

namespace Statescope

/-! ## Selectors -/

/-- Which of the loaded elements are meant. -/
inductive Selector where
  | all
  | only (id : String)
  | anyOf (ids : List String)
  | withClasses (classes : List String)
deriving DecidableEq

namespace Selector

/-- The nodes that can be tapped. -/
def enabledActions : Selector := .withClasses [actionClass, enabledClass]

def «matches» (s : Selector) (e : Element) : Bool :=
  match s with
  | .all => true
  | .only id => e.id = id
  | .anyOf ids => ids.any (e.id = ·)
  | .withClasses classes => classes.all e.hasClass

end Selector

/-! ## Surfaces -/

inductive SurfaceError where
  | unknownElement (id : String)
  | missingEndpoint (edge : String)
  | notANode (id : String)
deriving DecidableEq

def SurfaceError.message : SurfaceError → String
  | .unknownElement id => "unknown element: " ++ id
  | .missingEndpoint edge => "invariant violation: edge " ++ edge ++ " has a missing endpoint"
  | .notANode id => "invariant violation: " ++ id ++ " is not a node"

structure Surface where
  elements : List Element := []
  /-- The layouts that have been run, oldest first. -/
  layouts : List LayoutKind := []
  loads : Nat := 0
  fits : Nat := 0
  disposed : Bool := false
deriving DecidableEq

namespace Surface

/-! ## Looking up -/

def element? (s : Surface) (id : String) : Option Element := s.elements.find? (·.id = id)

def contains (s : Surface) (id : String) : Bool := (s.element? id).isSome

def position? (s : Surface) (id : String) : Option Position := s.element? id >>= (·.position)

def hasClass (s : Surface) (id c : String) : Bool := (s.element? id).any (·.hasClass c)

/-- The ids of the selected elements, in load order. -/
def select (s : Surface) (selector : Selector) : List String :=
  (s.elements.filter selector.matches).map (·.id)

/-- The positions of all elements that have one. -/
def nodePositions (s : Surface) : Dict Position := Element.positions s.elements

/-! ## Loading -/

/-- Whether both ends of an edge are among the nodes. -/
def endsAmong (nodes : Tags) (edge : Element) : Bool :=
  edge.source.any nodes.contains && edge.target.any nodes.contains

/-- A node without a position takes over the one that its id has on the surface. -/
def carryOver (s : Surface) (e : Element) : Element :=
  if e.isNode && e.position.isNone then { e with position := s.position? e.id } else e

/-- Replaces the loaded elements. Edges must end at nodes of the new list. -/
def load (s : Surface) (elements : List Element) : Except SurfaceError Surface :=
  let nodes := Element.nodeIds elements
  match (elements.filter (!·.isNode)).find? (!endsAmong nodes ·) with
  | some edge => .error (.missingEndpoint edge.id)
  | none => .ok { s with elements := elements.map s.carryOver, loads := s.loads + 1 }

/-! ## Layouts and the view -/

def fit (s : Surface) : Surface := { s with fits := s.fits + 1 }

/-- The position that a layout gives to the `i`-th node. -/
def arranged (spec : LayoutSpec) (i : Nat) (old : Option Position) : Position :=
  match spec.kind with
  | .preset => old.getD .origin
  | .dagre => ⟨Float.ofNat i * spec.stride, 0⟩
  | .cose => ⟨0, Float.ofNat i * spec.stride⟩

/-- The elements with their nodes arranged, counting from `i`. -/
def arrange (spec : LayoutSpec) : Nat → List Element → List Element
  | _, [] => []
  | i, e :: es =>
    if e.isNode then { e with position := some (arranged spec i e.position) } :: arrange spec (i + 1) es
    else e :: arrange spec i es

/-- Runs a layout over the nodes, in load order. -/
def runLayout (s : Surface) (spec : LayoutSpec) : Surface :=
  let s := { s with
    elements := arrange spec 0 s.elements
    layouts := s.layouts ++ [spec.kind] }
  if spec.fit then s.fit else s

/-! ## Changing elements -/

/-- Changes the elements with these ids, passing over those that are not loaded. -/
def updateAll (s : Surface) (ids : List String) (f : Element → Element) : Surface :=
  { s with elements := ids.foldl (fun es id => modifyFirst (·.id = id) f es) s.elements }

def addClass (s : Surface) (ids : List String) (c : String) : Surface :=
  s.updateAll ids fun e => { e with classes := e.classes.insert c }

def removeClass (s : Surface) (ids : List String) (c : String) : Surface :=
  s.updateAll ids fun e => { e with classes := e.classes.erase c }

/-- Moves a node. -/
def setPosition (s : Surface) (id : String) (p : Position) : Except SurfaceError Surface :=
  match s.element? id with
  | none => .error (.unknownElement id)
  | some e =>
    if e.isNode then
      .ok { s with
        elements := modifyFirst (·.id = id) (fun e => { e with position := some p }) s.elements }
    else .error (.notANode id)

/-- Moves the nodes that the dictionary names and leaves out the rest of it. -/
def applyPositions (s : Surface) (positions : Dict Position) : Surface :=
  positions.toList.foldl (fun s (id, p) => (s.setPosition id p).toOption.getD s) s

/-- Lets go of everything that is loaded. -/
def dispose (s : Surface) : Surface := { s with elements := [], disposed := true }

end Surface

end Statescope
