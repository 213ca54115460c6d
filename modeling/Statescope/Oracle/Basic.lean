-- SUMMARY: Position oracles: coordinates gathered from the nodes and labels of a rendered flowchart.
import Statescope.Graph.Element
import Statescope.Number.Spelled
import Statescope.Text.Blank
import Statescope.Text.Split

/-!
# Position oracles

A flowchart that has been rendered elsewhere knows where its nodes and labels
are. An oracle holds these positions by the name of the node and by the text of
the label.
-/

namespace Statescope

structure PositionOracle where
  nodes : Dict Position := ∅
  labels : Dict Position := ∅
deriving DecidableEq

namespace PositionOracle

def isEmpty (o : PositionOracle) : Bool := o.nodes.isEmpty && o.labels.isEmpty

/-! ## Transforms -/

/-- The argument of the first `translate(` of a transform, up to the next parenthesis. -/
def translation? (transform : List Char) : Option (List Char) := do
  let (_, rest) ← Text.splitFirst? "translate(".toList transform
  let (argument, _) ← Text.splitFirst? [')'] rest
  return argument

/-- The position that a transform moves to: two finite numbers with a comma between. -/
def parseTranslate? (transform : List Char) : Option Position := do
  let (x, y) ← Text.splitFirst? [','] (← translation? transform)
  return ⟨← Spelled.float? (Text.trim x), ← Spelled.float? (Text.trim y)⟩

/-! ## Rendered flowcharts -/

/-- The name in the id of a rendered node: what stands between the first two hyphens
of an id that begins with `flowchart`. -/
def nodeName? (domId : List Char) : Option (List Char) :=
  match Text.splitOn '-' domId with
  | tag :: name :: _ => if tag = "flowchart".toList ∧ name ≠ [] then some name else none
  | _ => none

/-- The name and the position of a rendered node, if both can be read. -/
def node? (rendered : String × String) : Option (String × Position) := do
  return (String.ofList (← nodeName? rendered.1.toList), ← parseTranslate? rendered.2.toList)

/-- The text and the position of a rendered label, if there is a text and the position
can be read. -/
def label? (rendered : String × String) : Option (String × Position) := do
  let text := Text.trim rendered.1.toList
  guard (text ≠ [])
  return (String.ofList text, ← parseTranslate? rendered.2.toList)

/-- The oracle of a rendered flowchart, given as ids and texts with their transforms.
What cannot be read is left out; of two entries with one name the later counts. -/
def ofRendered (nodes labels : List (String × String)) : PositionOracle where
  nodes := Dict.ofPairs (nodes.filterMap node?)
  labels := Dict.ofPairs (labels.filterMap label?)

end PositionOracle

end Statescope
