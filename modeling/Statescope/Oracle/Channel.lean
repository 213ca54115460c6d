-- SUMMARY: Waiting for a position oracle, with a budget of time.
import Statescope.Oracle.Basic

/-!
# Oracle channels

An oracle is delivered once, through a channel. `Feed` is what there is to be
received, and `Feed.await` says what comes of waiting for it, and when.
-/

namespace Statescope

/-- What a channel has to deliver. -/
inductive Feed where
  /-- The oracle has been published. -/
  | published (oracle : PositionOracle)
  /-- The oracle will be published at this time. -/
  | due (time : Int) (oracle : PositionOracle)
  /-- Somebody may publish later. -/
  | silent
  /-- Nobody can publish any more. -/
  | abandoned
deriving DecidableEq

/-- How a wait ended: what was received, at what time, and whether it was the budget
that ended it. -/
structure Wait where
  received : Option PositionOracle
  time : Int
  timedOut : Bool := false
deriving DecidableEq

namespace Feed

/-- What there is to be received at a moment: what was due by then has been published. -/
def asOf (feed : Feed) (now : Int) : Feed :=
  match feed with
  | .due time oracle => if time ≤ now then .published oracle else .due time oracle
  | feed => feed

/-- Waits for at most `budget`. What is published at the very end of it comes too late,
even if that is at once, but what has been published before is received even without a
budget. -/
def await (feed : Feed) (now : Int) (budget : Nat) : Wait :=
  match feed with
  | .published oracle => ⟨some oracle, now, false⟩
  | .due time oracle =>
    if time < now + budget then ⟨some oracle, max now time, false⟩
    else ⟨none, now + budget, true⟩
  | .silent => ⟨none, now + budget, true⟩
  | .abandoned => ⟨none, now, false⟩

/-- Without a channel there is nothing to wait for. -/
def await? (feed : Option Feed) (now : Int) (budget : Nat) : Wait :=
  match feed with
  | some feed => feed.await now budget
  | none => ⟨none, now, false⟩

theorem le_time_await (feed : Feed) (now : Int) (budget : Nat) :
    now ≤ (feed.await now budget).time := by
  cases feed with
  | published | abandoned => simp [await]
  | silent => simp only [await]; omega
  | due time oracle =>
    simp only [await]
    split <;> simp only <;> omega

end Feed

end Statescope
