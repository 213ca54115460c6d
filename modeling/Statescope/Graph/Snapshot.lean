-- SUMMARY: Snapshots: the diagram and the panel at one moment of a simulation, decoded and checked.
import Statescope.Graph.Transition
import Statescope.Json.Wording

/-!
# Snapshots

A snapshot describes the whole diagram and the contents of the side panel after
a step of the model. `Snapshot.read` accepts a text whose elements have distinct
ids and whose edges join nodes of the same snapshot.
-/

namespace Statescope

/-! ## Panel data -/

structure PanelData where
  canUndo : Bool := false
  enabled : List EnabledTransition := []
  clocks : Dict Float := ∅
  vars : Dict Value := ∅

namespace PanelData

def toJson (p : PanelData) : Json :=
  .record [("canUndo", .bool p.canUndo), ("enabled", .array (p.enabled.map (·.toJson))),
    ("clocks", .dict .float p.clocks), ("variables", .dict Value.toJson p.vars)]

def decoder : Decoder PanelData :=
  .record ["canUndo", "enabled", "clocks", "variables"] fun f => do
    return {
      canUndo := ← f.required "canUndo" .bool
      enabled := ← f.required "enabled" (.list EnabledTransition.decoder)
      clocks := ← f.default "clocks" (.dict .float) ∅
      vars := ← f.default "variables" (.dict Value.decoder) ∅ }

end PanelData

/-! ## Kinds of steps -/

/-- How the model came to the snapshot. -/
inductive StepKind where
  | step
  | undo
  | reset
deriving DecidableEq

namespace StepKind

def names : List (String × StepKind) := [("step", .step), ("undo", .undo), ("reset", .reset)]

def name : StepKind → String
  | .step => "step"
  | .undo => "undo"
  | .reset => "reset"

def toJson (k : StepKind) : Json := .text k.name

def decoder : Decoder StepKind := .named names

end StepKind

/-! ## Snapshots -/

structure Snapshot where
  elements : List Element
  panel : PanelData
  lastTransition : Option Transition := none
  declaredKind : Option StepKind := none

inductive SnapshotError where
  /-- The text is no snapshot. -/
  | malformed (text : String)
  | duplicateId (id : String)
  | missingEndpoint (edge : String)
  | danglingEdge (edge node : String)
deriving DecidableEq

def SnapshotError.message (w : Wording) : SnapshotError → String
  | .malformed text => "malformed snapshot: " ++ w.snapshot text
  | .duplicateId id => "duplicate element id: " ++ id
  | .missingEndpoint edge => "edge " ++ edge ++ " is missing an endpoint"
  | .danglingEdge edge node => "edge " ++ edge ++ " references unknown node " ++ node

namespace Snapshot

def toJson (s : Snapshot) : Json :=
  .record <|
    [("graphElements", .array (s.elements.map (·.toJson))), ("panelData", s.panel.toJson)]
    ++ Json.optional "lastTransition" Transition.toJson s.lastTransition
    ++ Json.optional "transitionKind" StepKind.toJson s.declaredKind

def decoder : Decoder Snapshot :=
  .record ["graphElements", "panelData", "lastTransition", "transitionKind"] fun f => do
    return {
      elements := ← f.required "graphElements" (.list Element.decoder)
      panel := ← f.required "panelData" PanelData.decoder
      lastTransition := ← f.optional "lastTransition" Transition.decoder
      declaredKind := ← f.optional "transitionKind" StepKind.decoder }

/-- The first text that has occurred before. -/
def firstRepeated? (seen : Tags) : List String → Option String
  | [] => none
  | t :: ts => if seen.contains t then some t else firstRepeated? (seen.insert t) ts

/-- What is wrong with the ends of an edge, its source looked at first. -/
def edgeError? (nodes : Tags) (edge : Element) : Option SnapshotError :=
  match edge.source, edge.target with
  | some source, some target =>
    if !nodes.contains source then some (.danglingEdge edge.id source)
    else if !nodes.contains target then some (.danglingEdge edge.id target)
    else none
  | _, _ => some (.missingEndpoint edge.id)

/-- What is wrong with a list of elements: a repeated id, or else the first edge
whose ends are not nodes of the list. -/
def elementsError? (elements : List Element) : Option SnapshotError :=
  match firstRepeated? ∅ (elements.map (·.id)) with
  | some id => some (.duplicateId id)
  | none => (elements.filter (!·.isNode)).findSome? (edgeError? (Element.nodeIds elements))

/-- The snapshot that a text spells, if it is well formed. -/
def read (text : String) : Except SnapshotError Snapshot :=
  match decoder.readText? text with
  | none => .error (.malformed text)
  | some s =>
    match elementsError? s.elements with
    | some e => .error e
    | none => .ok s

/-- The state that the model is in: the first element marked as current. -/
def currentState? (s : Snapshot) : Option Element := s.elements.find? (·.hasClass currentClass)

/-- The declared kind; without one, a snapshot with a transition is a step and any
other an undo. -/
def stepKind (s : Snapshot) : StepKind :=
  s.declaredKind.getD (if s.lastTransition.isSome then .step else .undo)

end Snapshot

/-! ## Actions by element -/

/-- The labelled transitions that are enabled, by the id of their action node. -/
abbrev ActionIndex := Dict Transition

def ActionIndex.ofSnapshot (s : Snapshot) : ActionIndex :=
  Dict.ofPairs <|
    ((s.panel.enabled.map (·.transition)).filter (!·.isDirect)).map fun t => (t.actionId, t)

end Statescope
