-- SUMMARY: The operations of the explorer as commands, their replies, and runs of commands.
import Statescope.Explorer.Gestures
import Statescope.Explorer.Render

/-!
# Commands

Everything that can happen to an explorer, as data. `perform` carries out one
command and `run` a list of them.
-/

namespace Statescope

inductive Command where
  /-- Render a snapshot; without a clock reading, now. -/
  | render (container text : String) (isFirst : Bool) (now : Option Int)
  | attachOracle (container : String) (channel : Channel)
  | publishOracle (ticket : Nat) (oracle : PositionOracle)
  | abandonOracle (ticket : Nat)
  | tap (container id : String)
  | click (container : String) (transition : Transition)
  | undo (container : String)
  | setAutoAdvance (container : String) (enabled : Bool) (seconds : Option Float)
  | moveNode (container id : String) (position : Position)
  | selectLayout (container name : String)
  | exportLayouts (container : String)
  | importLayouts (container text : String)
  /-- Expire highlights and notices; without a clock reading, now. -/
  | tick (now : Option Int)
  | advance (span : Nat)
  | dispose (container : String)

/-- What a command answers. -/
inductive Reply where
  | done
  | rendered (result : Except ExplorerError Unit)
  | flag (b : Bool)
  | transition (t : Option Transition)
  | layout (kind : Option LayoutKind)
  | bundle (text : Option String)
  | count (n : Option Nat)

namespace Explorer

variable [BlobStore σ]

def perform (e : Explorer σ) : Command → Reply × Explorer σ
  | .render container text isFirst now =>
    let (r, e) := e.render container text isFirst (now.getD e.now)
    (.rendered r, e)
  | .attachOracle container channel => (.done, e.attachOracle container channel)
  | .publishOracle ticket oracle => let (b, e) := e.publishOracle ticket oracle; (.flag b, e)
  | .abandonOracle ticket => (.done, e.abandonOracle ticket)
  | .tap container id => let (t, e) := e.tap container id; (.transition t, e)
  | .click container t => let (b, e) := e.click container t; (.flag b, e)
  | .undo container => let (b, e) := e.undo container; (.flag b, e)
  | .setAutoAdvance container enabled seconds =>
    let (b, e) := e.setAutoAdvance container enabled seconds
    (.flag b, e)
  | .moveNode container id p => (.done, e.moveNode container id p)
  | .selectLayout container name => let (k, e) := e.selectLayout container name; (.layout k, e)
  | .exportLayouts container => let (t, e) := e.exportLayouts container; (.bundle t, e)
  | .importLayouts container text => let (n, e) := e.importLayouts container text; (.count n, e)
  | .tick now => (.done, e.tick (now.getD e.now))
  | .advance span => (.done, e.advance span)
  | .dispose container => let (b, e) := e.dispose container; (.flag b, e)

/-- The state after a list of commands. -/
def run (e : Explorer σ) (commands : List Command) : Explorer σ :=
  commands.foldl (fun e c => (e.perform c).2) e

end Explorer

end Statescope
