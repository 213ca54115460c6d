-- SUMMARY: The state of the explorer: diagrams by container, timers, oracles under way, notices and logs.
import Statescope.Clock.Timer
import Statescope.Host
import Statescope.Oracle.Channel
import Statescope.Session.Drawing
import Statescope.Session.Notice
import Statescope.Session.Panel

/-!
# The explorer

The explorer shows one diagram per container. It is a single state; every
operation is a function from one state to the next. What goes out to the model
and what is asked of the host's canvas is logged in the state, each entry with
the container it is for.
-/

namespace Statescope

/-- A diagram with its panel. -/
structure Diagram where
  drawing : Drawing
  trace : Trace
  panel : PanelView
  /-- What was wrong with the last snapshot, if anything. -/
  lastError : Option String := none
  /-- Whether the first snapshot found a saved layout. -/
  restored : Bool := false
deriving DecidableEq

/-- The receiving end of an oracle channel. Tickets tell channels apart. -/
structure Channel where
  ticket : Nat
  feed : Feed
deriving DecidableEq

/-- What is asked of the canvas of the host. -/
inductive SurfaceEvent where
  | created (container : String)
  | disposed (container : String)
deriving DecidableEq

inductive ExplorerError where
  | snapshot (cause : SnapshotError)
  | surface (cause : SurfaceError)
  | noDiagram (container : String)
deriving DecidableEq

def ExplorerError.message (w : Wording) : ExplorerError → String
  | .snapshot cause => cause.message w
  | .surface cause => cause.message
  | .noDiagram container => "no diagram rendered in container " ++ container

structure Explorer (σ : Type) where
  store : LayoutStore σ
  prefs : Prefs := {}
  host : Host := {}
  /-- The clock. -/
  now : Int := 0
  notices : NoticeQueue := .empty 16
  diagrams : Dict Diagram := ∅
  /-- The oracles that first snapshots will wait for. -/
  pending : Dict Channel := ∅
  timers : Timers := []
  /-- The calls to the model, oldest first. -/
  calls : List (String × EngineCall) := []
  /-- The requests to the canvas, oldest first. -/
  surfaces : List SurfaceEvent := []

namespace Explorer

/-! ## Looking -/

def isRunning (e : Explorer σ) (container : String) : Bool := e.timers.isRunning container

/-- When the next highlight ends. -/
def nextDeadline? (e : Explorer σ) : Option Int :=
  (e.diagrams.values.filterMap (·.drawing.deadline?)).min?

/-! ## Notices and calls -/

/-- How long notices of a kind are shown. -/
def noticeTtl : NoticeKind → Nat
  | .info => millis 4000
  | .warning | .error => millis 8000

def notify (e : Explorer σ) (kind : NoticeKind) (scope : NoticeScope) (title : String)
    (body : Option String) (now : Int) : Explorer σ :=
  { e with notices := (e.notices.push ⟨kind, scope, title, body⟩ (noticeTtl kind) now).2 }

/-- Calls the model on behalf of a container. -/
def call (e : Explorer σ) (container : String) (c : EngineCall) : Explorer σ :=
  { e with calls := e.calls ++ [(container, c)] }

/-! ## Time -/

/-- Lets time pass up to `stop`; the timers tick meanwhile. -/
def passTime (e : Explorer σ) (stop : Int) : Explorer σ :=
  let (calls, timers) := e.timers.run e.now stop
  { e with now := stop, timers, calls := e.calls ++ calls }

def advance (e : Explorer σ) (span : Nat) : Explorer σ := e.passTime (e.now + span)

/-- Ends the highlights and the notices whose time is over. -/
def tick (e : Explorer σ) (now : Int) : Explorer σ :=
  { e with
    diagrams := e.diagrams.map fun _ d => { d with drawing := (d.drawing.expireFlash now).2 }
    notices := e.notices.retainVisible now }

/-! ## Oracles -/

/-- Has the next first snapshot of a container wait for a channel. -/
def attachOracle (e : Explorer σ) (container : String) (channel : Channel) : Explorer σ :=
  { e with pending := e.pending.insert container channel }

/-- Whether somebody still waits for what is published with this ticket. -/
def awaits (e : Explorer σ) (ticket : Nat) : Bool := e.pending.values.any (·.ticket = ticket)

/-- The state with the feed of one channel replaced. -/
def setFeed (e : Explorer σ) (ticket : Nat) (feed : Feed) : Explorer σ :=
  { e with pending := e.pending.map fun _ c => if c.ticket = ticket then { c with feed } else c }

/-- Publishes an oracle. Says whether anybody still waits for it. -/
def publishOracle (e : Explorer σ) (ticket : Nat) (oracle : PositionOracle) : Bool × Explorer σ :=
  (e.awaits ticket, e.setFeed ticket (.published oracle))

/-- Gives up on publishing. -/
def abandonOracle (e : Explorer σ) (ticket : Nat) : Explorer σ := e.setFeed ticket .abandoned

end Explorer

end Statescope
