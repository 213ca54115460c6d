-- SUMMARY: What the model is told to do, and the transitions that can be read off a log of it.
import Statescope.Graph.Transition

/-!
# Engine calls

The model is told to take a transition, to step back, or to let time pass. It
never answers; the next snapshot shows what became of it.
-/

namespace Statescope

inductive EngineCall where
  /-- Take the transition that the payload spells. -/
  | take (payload : String)
  | undo
  /-- Let this many seconds pass. -/
  | advance (seconds : Float)
deriving DecidableEq

namespace EngineCall

/-- The transition that is taken, if the payload can be read. -/
def transition? : EngineCall → Option Transition
  | .take payload => Transition.decoder.readText? payload
  | _ => none

def isAdvance : EngineCall → Bool
  | .advance _ => true
  | _ => false

end EngineCall

end Statescope
