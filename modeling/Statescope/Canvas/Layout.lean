-- SUMMARY: The layout algorithms that can be chosen, and how each is tuned.

/-!
# Layouts

A layout is chosen by name. `LayoutSpec` is the request that goes to the canvas:
the algorithm and all of its measures.
-/

namespace Statescope

inductive LayoutKind where
  /-- Nodes stay where they are. -/
  | preset
  /-- Nodes are arranged in ranks. -/
  | dagre
  /-- Nodes are arranged by forces. -/
  | cose
deriving DecidableEq

namespace LayoutKind

def name : LayoutKind → String
  | .preset => "preset"
  | .dagre => "dagre"
  | .cose => "cose"

def ofName? (name : String) : Option LayoutKind :=
  if name = "preset" then some .preset
  else if name = "dagre" then some .dagre
  else if name = "cose" then some .cose
  else none

@[simp] theorem ofName?_name (k : LayoutKind) : ofName? k.name = some k := by
  cases k <;> decide

/-- The complaint about a name that is no layout's. -/
def unknownMessage (name : String) : String := "unknown layout: " ++ name

end LayoutKind

/-- The direction in which ranks follow each other. -/
inductive RankDirection where
  | leftRight
  | topBottom
deriving DecidableEq

structure LayoutSpec where
  kind : LayoutKind
  fit : Bool := true
  padding : Float := 30
  animate : Bool := false
  rankDirection : RankDirection := .leftRight
  spacingFactor : Float := 1
  nodeSep : Float := 0
  rankSep : Float := 0
  edgeSep : Float := 0
  nodeRepulsion : Float := 0
  idealEdgeLength : Float := 0
  componentSpacing : Float := 0
deriving DecidableEq

namespace LayoutSpec

/-- The tuning of each algorithm. -/
def ofKind : LayoutKind → LayoutSpec
  | .preset => { kind := .preset }
  | .dagre =>
    { kind := .dagre, padding := 50, spacingFactor := 1.2
      nodeSep := 60, rankSep := 70, edgeSep := 10 }
  | .cose =>
    { kind := .cose, animate := true
      nodeRepulsion := 9000, idealEdgeLength := 100, componentSpacing := 100 }

/-- The space that a node takes up. -/
def nodeExtent : Float := 50

/-- The greater of two numbers; a number rather than none. -/
def greater (x y : Float) : Float :=
  if x.isNaN then y else if y.isNaN then x else if x < y then y else x

/-- The distance from one node to the next. -/
def stride (spec : LayoutSpec) : Float :=
  (nodeExtent + greater spec.nodeSep spec.idealEdgeLength) * spec.spacingFactor

@[simp] theorem kind_ofKind (k : LayoutKind) : (ofKind k).kind = k := by cases k <;> rfl

end LayoutSpec

end Statescope
