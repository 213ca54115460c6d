-- SUMMARY: Replays: the snapshots of a file rendered line by line, and the export of the layouts afterwards.
import Statescope.Explorer.Gestures
import Statescope.Explorer.Render
import Statescope.Replay.Event
import Statescope.Replay.Options
import Statescope.Text.Blank

/-!
# Replays

A replay renders the lines of a file, one snapshot each, into a single
container. Until a snapshot has started the diagram, every line is tried as the
first one; lines that are refused are skipped. After the last line the layouts
in the store may be exported.

`Replay.start` and `Replay.run` do not touch any file. What has to be written is
handed out by `Replay.conclude`, which is told whether the file can be written.
-/

namespace Statescope

structure Replay (σ : Type) where
  explorer : Explorer σ
  /-- The number of snapshots that have been rendered. -/
  rendered : Nat := 0
  /-- What has been reported, oldest first. -/
  events : List Replay.Event := []

namespace Replay

/-! ## Files -/

inductive Failure where
  | unreadable (path : String)
  | unwritable (path : String)
deriving DecidableEq

namespace Failure

def message : Failure → String
  | .unreadable path => "reading " ++ path
  | .unwritable path => "writing " ++ path

/-- The exit code of the program. -/
def code (_ : Failure) : Nat := 1

end Failure

/-- The text of the snapshot file, from its content. -/
def input (o : Options) (content : Option Blob) : Except Failure String :=
  match content.bind (·.text?) with
  | some text => .ok text
  | none => .error (.unreadable o.snapshots)

/-! ## Start -/

/-- The container that everything is rendered into. -/
def container : String := "replay"

/-- The preferences with what the options say instead. -/
def Options.adjust (o : Options) (p : Prefs) : Prefs :=
  { p with
    seedBundle := o.seed.map .ofText <|> p.seedBundle
    layout := o.layout.getD p.layout }

variable [BlobStore σ]

/-- A replay that has rendered nothing yet, with the store at `place`. -/
def start (o : Options) (place : String) (store : σ) (host : Host) : Replay σ where
  explorer := { store := { store }, prefs := o.adjust ((Prefs.load? store).getD {}), host }
  events := [.storeReady place]

/-! ## Lines -/

/-- The lines of a text that are not blank, trimmed, with their numbers. -/
def snapshotLines (text : String) : List (Nat × String) :=
  ((Text.lines text.toList).zipIdx 1).filterMap fun (line, number) =>
    match Text.trim line with
    | [] => none
    | c :: cs => some (number, String.ofList (c :: cs))

def diagram? (r : Replay σ) : Option Diagram := r.explorer.diagrams[container]?

def report (r : Replay σ) (events : List Event) : Replay σ := { r with events := r.events ++ events }

/-- What is reported after a line has been rendered. -/
def renderedEvents (number : Nat) (isFirst : Bool) : Option Diagram → List Event
  | some d => if isFirst then [.started d, .applied number d] else [.applied number d]
  | none => []

/-- Lets the next highlight end. -/
def settle (e : Explorer σ) : Explorer σ :=
  match e.nextDeadline? with
  | some time => e.tick time
  | none => e

/-- Renders one line, at the time that the clock says. -/
def feed (r : Replay σ) (now : Int) (number : Nat) (line : String) : Replay σ :=
  let isFirst := r.rendered = 0
  match (r.explorer.passTime now).render container line isFirst now with
  | (.error _, explorer) => { r with explorer }.report [.skipped number]
  | (.ok (), explorer) =>
    { r with explorer := settle explorer, rendered := r.rendered + 1 }.report
      (renderedEvents number isFirst explorer.diagrams[container]?)

/-- Renders lines. The clock is read for each of them. -/
def feedAll (r : Replay σ) (clock : Nat → Int) (lines : List (Nat × String)) : Replay σ :=
  lines.foldl (fun r (number, line) => r.feed (clock number) number line) r

/-- Reports that there are no more lines. -/
def finish (r : Replay σ) : Replay σ := r.report [.finished r.rendered]

/-- Renders all lines of a text. `clock` is what the clock says at each line. -/
def run (r : Replay σ) (clock : Nat → Int) (text : String) : Replay σ :=
  (r.feedAll clock (snapshotLines text)).finish

/-! ## End -/

/-- How a replay ends. -/
structure Outcome (σ : Type) where
  replay : Replay σ
  /-- The text of the export file, if one is written. -/
  exported : Option String := none
  failure : Option Failure := none

/-- The exit code of the program. -/
def Outcome.code (o : Outcome σ) : Nat :=
  match o.failure with
  | some f => f.code
  | none => 0

/-- The bundle of the layouts in the store, if there are any. -/
def bundle (r : Replay σ) : Option String × Replay σ :=
  let (text, explorer) := r.explorer.exportLayouts container
  (text, { r with explorer })

/-- Ends a replay, exporting the layouts to `path` if that is given. -/
def conclude (r : Replay σ) (path : Option String) (writable : Bool) : Outcome σ :=
  match path with
  | none => { replay := r }
  | some path =>
    match r.bundle with
    | (none, r) => { replay := r.report [.nothingToExport] }
    | (some text, r) =>
      if writable then { replay := r.report [.exported path], exported := some text }
      else { replay := r, failure := some (.unwritable path) }

end Replay

end Statescope
