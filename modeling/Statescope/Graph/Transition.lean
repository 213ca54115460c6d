-- SUMMARY: Transitions of a model, their JSON form, and the ids of the elements that draw them.
import Statescope.Graph.Element
import Statescope.Json.Value

/-!
# Transitions

A transition leads from a state to a state under a label. A labelled transition
is drawn as an action node with an edge from its source and an edge to its
target, one without a label as a single edge. `flashSet` names these elements;
their ids are joined from the parts of the transition without any escaping, so a
single id may belong to several transitions.
-/

namespace Statescope

structure Transition where
  source : String
  target : String
  label : String := ""
  isDelay : Bool := false
deriving DecidableEq

namespace Transition

/-- Whether the transition is drawn without an action node. -/
def isDirect (t : Transition) : Bool := t.label.isEmpty

/-! ## JSON -/

def members (t : Transition) : List (String × Json) :=
  [("from", .text t.source), ("to", .text t.target), ("lbl", .text t.label)]
    ++ if t.isDelay then [("isDelay", .bool true)] else []

def toJson (t : Transition) : Json := .record t.members

def fieldNames : List String := ["from", "to", "lbl", "isDelay"]

def ofFields? (f : Decoder.Fields) : Option Transition := do
  return {
    source := ← f.required "from" .text
    target := ← f.required "to" .text
    label := ← f.default "lbl" .text ""
    isDelay := ← f.default "isDelay" .bool false }

def decoder : Decoder Transition := .record fieldNames ofFields?

/-- The text that tells a model to take the transition. -/
def payload (t : Transition) : String := t.toJson.compact

/-! ## Ids -/

def actionId (t : Transition) : String :=
  "event_" ++ t.source ++ "_" ++ t.target ++ "_" ++ t.label

def directEdgeId (t : Transition) : String :=
  "direct_" ++ t.source ++ "_" ++ t.target ++ "_"

/-- The edge from the source state to the action node. -/
def sourceEdgeId (t : Transition) : String := "s_to_a_" ++ t.source ++ "_" ++ t.actionId

/-- The edge from the action node to the target state. -/
def targetEdgeId (t : Transition) : String := "a_to_s_" ++ t.actionId ++ "_" ++ t.target

/-- The elements that draw the transition, the action node first. -/
def flashSet (t : Transition) : List String :=
  if t.isDirect then [t.directEdgeId] else [t.actionId, t.sourceEdgeId, t.targetEdgeId]

end Transition

/-! ## Enabled transitions -/

/-- A transition that may be taken, with the text of its button. -/
structure EnabledTransition where
  transition : Transition
  caption : String := ""
deriving DecidableEq

namespace EnabledTransition

def toJson (e : EnabledTransition) : Json :=
  .record (e.transition.members ++ [("label", .text e.caption)])

/-- Only an object will do, and its unknown members must be readable data. -/
def decoder : Decoder EnabledTransition
  | depth + 1, .object ms => do
    guard (Decoder.wellKeyed ("label" :: Transition.fieldNames) ms)
    guard (ms.all fun (_, j) => (Value.decoder depth j).isSome)
    let f : Decoder.Fields := ⟨depth, Decoder.member? ms⟩
    return ⟨← Transition.ofFields? f, ← f.default "label" .text ""⟩
  | _, _ => none

end EnabledTransition

end Statescope
