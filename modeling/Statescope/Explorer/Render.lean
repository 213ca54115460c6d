-- SUMMARY: Rendering snapshots into containers, and disposing of diagrams.
import Statescope.Explorer.Basic

/-!
# Rendering

A first snapshot starts the diagram of a container, any other one continues it.
A snapshot that is refused leaves the diagram as it was; the reason is kept with
the diagram and shown as a notice.
-/

namespace Statescope.Explorer

variable [BlobStore σ]

/-! ## First snapshots -/

/-- Imports the seed bundle of the preferences, if there is one and it is time to. -/
def seedLayouts (e : Explorer σ) : Explorer σ :=
  match e.prefs.seedBundle with
  | some path => { e with store := (e.store.seed (e.host.file? path)).2 }
  | none => e

/-- Takes the channel of a container away. -/
def takeFeed (e : Explorer σ) (container : String) : Option Feed × Explorer σ :=
  (e.pending[container]?.map (·.feed.asOf e.now), { e with pending := e.pending.erase container })

/-- The diagram of a first snapshot. -/
def startDiagram (snapshot : Snapshot) (drawing : Drawing) (restored : Bool) : Diagram :=
  let trace := Trace.ofSnapshot snapshot
  { drawing, trace, panel := .build snapshot.panel trace, restored }

/-- Puts a diagram into its container. One that was there is disposed of, and its timer
with it. -/
def replaceDiagram (e : Explorer σ) (container : String) (d : Diagram) : Explorer σ :=
  { e with
    diagrams := e.diagrams.insert container d
    timers := e.timers.cancel container
    surfaces := e.surfaces ++ (if e.diagrams.contains container then [SurfaceEvent.disposed container] else []) }

/-- The last moment at which an old diagram still ticks while a new one waits. A wait
that runs out ends just before the ticks of that moment. -/
def lastTickTime (wait : Wait) (now : Int) : Int :=
  if wait.timedOut then max now (wait.time - 1) else wait.time

/-- Gets ready for the diagram of a container: seeds the layouts, asks for a canvas, takes
the channel away and waits for an oracle. Says what came of the wait. -/
def prepareFirst (e : Explorer σ) (container : String) : Wait × Explorer σ :=
  let e := e.seedLayouts
  let e := { e with surfaces := e.surfaces ++ [SurfaceEvent.created container] }
  let (feed, e) := e.takeFeed container
  let wait := Feed.await? feed e.now (DrawingOptions.ofPrefs e.prefs).oracleBudget
  (wait, e.passTime (lastTickTime wait e.now))

/-- Starts the diagram of a container. -/
def renderFirst (e : Explorer σ) (container text : String) :
    Except ExplorerError Unit × Explorer σ :=
  match Snapshot.read text with
  | .error cause => (.error (.snapshot cause), e)
  | .ok snapshot =>
    let (wait, e) := e.prepareFirst container
    let (result, store) := Drawing.first {} snapshot wait.received (.ofPrefs e.prefs) e.store
    let e := { e with store }
    match result with
    | .error cause => (.error (.surface cause), e.passTime wait.time)
    | .ok (restored, drawing) =>
      (.ok (), (e.replaceDiagram container (startDiagram snapshot drawing restored)).passTime wait.time)

/-! ## Later snapshots -/

/-- A diagram after a snapshot that continues it. -/
def continueDiagram (d : Diagram) (snapshot : Snapshot) (drawing : Drawing) : Diagram :=
  let trace := d.trace.observe snapshot
  { d with drawing, trace, panel := .build snapshot.panel trace, lastError := none }

/-- Continues the diagram of a container. -/
def renderNext (e : Explorer σ) (container text : String) (now : Int) :
    Except ExplorerError Unit × Explorer σ :=
  match e.diagrams[container]? with
  | none => (.error (.noDiagram container), e)
  | some d =>
    match Snapshot.read text with
    | .error cause => (.error (.snapshot cause), e)
    | .ok snapshot =>
      match d.drawing.update snapshot now with
      | .error cause => (.error (.surface cause), e)
      | .ok drawing =>
        (.ok (), { e with
          diagrams := e.diagrams.insert container (continueDiagram d snapshot drawing) })

/-! ## Rendering -/

/-- Records why a snapshot was refused. -/
def reject (e : Explorer σ) (container : String) (cause : ExplorerError) (now : Int) : Explorer σ :=
  let message := cause.message e.host.wording
  let e := { e with
    diagrams := e.diagrams.modify container fun d => { d with lastError := some message } }
  e.notify .error (.container container) "Diagram update rejected" (some message) now

/-- Renders a snapshot, with a clock reading for highlights and notices. -/
def render (e : Explorer σ) (container text : String) (isFirst : Bool) (now : Int) :
    Except ExplorerError Unit × Explorer σ :=
  let (result, e) := if isFirst then e.renderFirst container text else e.renderNext container text now
  match result with
  | .ok () => (.ok (), e)
  | .error cause => (.error cause, e.reject container cause now)

/-- Disposes of the diagram of a container. Says whether there was one. -/
def dispose (e : Explorer σ) (container : String) : Bool × Explorer σ :=
  if e.diagrams.contains container then
    (true, { e with
      diagrams := e.diagrams.erase container
      timers := e.timers.cancel container
      surfaces := e.surfaces ++ [SurfaceEvent.disposed container] })
  else (false, e)

end Statescope.Explorer
