-- SUMMARY: A single timer with a clock of its own.
import Statescope.Clock.Timer

/-!
# Auto-advance

One timer on its own, together with the time and the calls it has made so far.
Without a scheduler it cannot be started. Each container of an explorer has a timer
of this kind, although there they all share one clock and one list of calls.
-/

namespace Statescope

structure AutoAdvance where
  /-- The owner of the only timer. -/
  owner : String := "auto"
  /-- Whether there is anything that can run timers. -/
  scheduler : Bool := true
  now : Int := 0
  timers : Timers := []
  /-- The delay of the current or the last run, in seconds. -/
  delay : Float := 0
  calls : List EngineCall := []

namespace AutoAdvance

def isRunning (a : AutoAdvance) : Bool := a.timers.isRunning a.owner

/-- Starts the timer, which advances the model at once. Says whether it did start. -/
def start (a : AutoAdvance) (seconds : Float) : Bool × AutoAdvance :=
  let delay := clampDelay seconds
  if a.isRunning || !a.scheduler || !isDuration delay then (false, a)
  else
    (true, { a with
      timers := a.timers.start a.owner delay a.now
      delay := delay
      calls := a.calls ++ [.advance delay] })

/-- Stops the timer. Says whether it was running. -/
def stop (a : AutoAdvance) : Bool × AutoAdvance :=
  (a.isRunning, { a with timers := a.timers.cancel a.owner })

/-- Lets time pass. -/
def advance (a : AutoAdvance) (span : Nat) : AutoAdvance :=
  let (calls, timers) := a.timers.run a.now (a.now + span)
  { a with now := a.now + span, timers, calls := a.calls ++ calls.map (·.2) }

end AutoAdvance

end Statescope
