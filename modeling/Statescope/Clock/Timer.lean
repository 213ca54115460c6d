-- SUMMARY: Timers that let model time pass at a steady pace, and the calls that fall due in a span of time.
import Statescope.Clock.Units
import Statescope.Session.EngineCall
import Statescope.Number.Binary64
import Statescope.Dict

/-!
# Timers

A timer belongs to an owner and lets the model advance by its delay, once when
it is started and again whenever its period has passed. Timers wake up at whole
milliseconds, so the `k`-th tick is made at the first one at or after `k` periods.

`Timers` lists the running timers in the order in which they were last set. Of
several ticks that fall due together, the one set first goes first.
-/

namespace Statescope

/-! ## Delays -/

/-- The shortest delay of a timer, in seconds. -/
def minDelay : Float := 0.1

/-- The longest delay of a timer, in seconds: one day. -/
def maxDelay : Float := 86400

/-- The nearest delay that a timer may have; the shortest one for what is no number. -/
def clampDelay (seconds : Float) : Float :=
  if seconds.isFinite then
    if seconds < minDelay then minDelay
    else if maxDelay < seconds then maxDelay
    else seconds
  else minDelay

/-- Whether a duration can be so many seconds long: they are not negative, and below
`2 ^ 64`. -/
def isDuration (seconds : Float) : Bool := 0 ≤ seconds && seconds < 18446744073709551616

/-! ## One timer -/

structure Timer where
  owner : String
  /-- Seconds from one tick to the next, and of model time per tick. -/
  delay : Float
  started : Int
deriving DecidableEq

namespace Timer

/-- The time from one tick to the next. -/
def period (t : Timer) : Nat := Binary64.roundScaled t.delay (1000 * nanosPerMilli)

/-- How many ticks are due by the given time. -/
def ticksBy (t : Timer) (time : Int) : Nat := (wholeMilli time - t.started).toNat / t.period

/-- When the `k`-th tick is due. -/
def tickTime (t : Timer) (k : Nat) : Int := wholeMilli (t.started + k * t.period + (nanosPerMilli - 1))

/-- The times of the ticks after `start` and up to `stop`. -/
def tickTimes (t : Timer) (start stop : Int) : List Int :=
  (List.range' (t.ticksBy start + 1) (t.ticksBy stop - t.ticksBy start)).map t.tickTime

/-- Whether a tick is due at this very moment. -/
def ticksAt (t : Timer) (time : Int) : Bool := t.ticksBy (time - 1) < t.ticksBy time

end Timer

/-! ## All timers -/

abbrev Timers := List Timer

namespace Timers

def isRunning (ts : Timers) (owner : String) : Bool := ts.any (·.owner = owner)

/-- Starts a timer for an owner that has none. -/
def start (ts : Timers) (owner : String) (delay : Float) (now : Int) : Timers :=
  if ts.isRunning owner then ts else ts ++ [⟨owner, delay, now⟩]

def cancel (ts : Timers) (owner : String) : Timers := ts.filter (·.owner ≠ owner)

/-- The moments after `start` and up to `stop` at which something is due, in order. -/
def moments (ts : Timers) (start stop : Int) : List Int :=
  (Std.ExtTreeSet.ofList (ts.flatMap (·.tickTimes start stop)) compare).toList

/-- The timers after the ticks of one moment: those that ticked have been set anew. -/
def requeue (ts : Timers) (time : Int) : Timers :=
  ts.filter (!·.ticksAt time) ++ ts.filter (·.ticksAt time)

/-- The calls due at one moment, each with its owner. -/
def callsAt (ts : Timers) (time : Int) : List (String × EngineCall) :=
  (ts.filter (·.ticksAt time)).map fun t => (t.owner, .advance t.delay)

/-- Lets time pass from `start` to `stop`: the calls that fall due, and the timers
afterwards. -/
def run (ts : Timers) (start stop : Int) : List (String × EngineCall) × Timers :=
  (ts.moments start stop).foldl
    (fun (calls, ts) time => (calls ++ ts.callsAt time, ts.requeue time)) ([], ts)

@[simp] theorem isRunning_cancel (ts : Timers) (owner : String) : (ts.cancel owner).isRunning owner = false := by
  simp [isRunning, cancel]

@[simp] theorem isRunning_start (ts : Timers) (owner : String) (delay : Float) (now : Int) :
    (ts.start owner delay now).isRunning owner = true := by
  simp only [start]
  split
  · assumption
  · simp [isRunning]

end Timers

end Statescope
