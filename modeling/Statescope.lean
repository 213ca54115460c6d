import Statescope.Canvas.Layout
import Statescope.Canvas.Surface
import Statescope.Clock.AutoAdvance
import Statescope.Clock.Timer
import Statescope.Clock.Units
import Statescope.Dict
import Statescope.Explorer.Basic
import Statescope.Explorer.Commands
import Statescope.Explorer.Gestures
import Statescope.Explorer.Render
import Statescope.FirstMatch
import Statescope.Graph.Element
import Statescope.Graph.Fingerprint
import Statescope.Graph.Snapshot
import Statescope.Graph.Transition
import Statescope.Host
import Statescope.Json.Basic
import Statescope.Json.Decoder
import Statescope.Json.Parser
import Statescope.Json.Printer
import Statescope.Json.Value
import Statescope.Json.Wording
import Statescope.Main
import Statescope.Number.Binary64
import Statescope.Number.Decimal
import Statescope.Number.Numeral
import Statescope.Number.Spelled
import Statescope.Oracle.Basic
import Statescope.Oracle.Channel
import Statescope.Oracle.Placement
import Statescope.Prefs
import Statescope.Proofs.Canvas.Positions
import Statescope.Proofs.Canvas.Reached
import Statescope.Proofs.Canvas.Surface
import Statescope.Proofs.Clock.Delay
import Statescope.Proofs.Clock.Ticks
import Statescope.Proofs.Dict
import Statescope.Proofs.Documents
import Statescope.Proofs.Explorer.Alike
import Statescope.Proofs.Explorer.AutoAdvance
import Statescope.Proofs.Explorer.Consistency
import Statescope.Proofs.Explorer.Diagrams
import Statescope.Proofs.Explorer.Drags
import Statescope.Proofs.Explorer.Driving
import Statescope.Proofs.Explorer.Flashes
import Statescope.Proofs.Explorer.Gestures
import Statescope.Proofs.Explorer.Imports
import Statescope.Proofs.Explorer.Isolation
import Statescope.Proofs.Explorer.Layouts
import Statescope.Proofs.Explorer.Notices
import Statescope.Proofs.Explorer.Render
import Statescope.Proofs.Explorer.Run
import Statescope.Proofs.Explorer.Schedule
import Statescope.Proofs.Explorer.SharedActions
import Statescope.Proofs.Explorer.SingleTimer
import Statescope.Proofs.Explorer.Starts
import Statescope.Proofs.Explorer.StoreChanges
import Statescope.Proofs.Explorer.StoreFrame
import Statescope.Proofs.Explorer.Timers
import Statescope.Proofs.Explorer.UndoStack
import Statescope.Proofs.Explorer.Updates
import Statescope.Proofs.Graph.ActionIndex
import Statescope.Proofs.Graph.Faults
import Statescope.Proofs.Graph.Fingerprint
import Statescope.Proofs.Graph.Identity
import Statescope.Proofs.Graph.Snapshot
import Statescope.Proofs.Graph.Transition
import Statescope.Proofs.Graph.WellFormed
import Statescope.Proofs.Json.Decoding
import Statescope.Proofs.Json.RoundTrip
import Statescope.Proofs.Json.Scalars
import Statescope.Proofs.Json.Value
import Statescope.Proofs.Number.Binary64
import Statescope.Proofs.Number.Bits
import Statescope.Proofs.Number.Decimal
import Statescope.Proofs.Number.Numeral
import Statescope.Proofs.Number.Shortest
import Statescope.Proofs.Number.Spelled
import Statescope.Proofs.Oracle.Flowchart
import Statescope.Proofs.Oracle.Lots
import Statescope.Proofs.Oracle.Placement
import Statescope.Proofs.Oracle.Places
import Statescope.Proofs.Oracle.Transform
import Statescope.Proofs.Pointwise
import Statescope.Proofs.Replay.Accepted
import Statescope.Proofs.Replay.Export
import Statescope.Proofs.Session.Drawing
import Statescope.Proofs.Session.Flash
import Statescope.Proofs.Session.Inherited
import Statescope.Proofs.Session.Notice
import Statescope.Proofs.Session.NoticeQueue
import Statescope.Proofs.Session.Start
import Statescope.Proofs.Session.Taps
import Statescope.Proofs.Store.Bundle
import Statescope.Proofs.Store.Directory
import Statescope.Proofs.Store.Exported
import Statescope.Proofs.Store.Fingerprints
import Statescope.Proofs.Store.Framed
import Statescope.Proofs.Store.Import
import Statescope.Proofs.Store.Imported
import Statescope.Proofs.Store.Keeping
import Statescope.Proofs.Store.LayoutFrame
import Statescope.Proofs.Store.Members
import Statescope.Proofs.Store.Memory
import Statescope.Proofs.Store.Mirror
import Statescope.Proofs.Store.Places
import Statescope.Proofs.Store.Sound
import Statescope.Proofs.Text.Occurrence
import Statescope.Proofs.Text.Split
import Statescope.Replay.Event
import Statescope.Replay.Options
import Statescope.Replay.Run
import Statescope.Session.Drawing
import Statescope.Session.EngineCall
import Statescope.Session.Notice
import Statescope.Session.Panel
import Statescope.Session.Trace
import Statescope.Store.Basic
import Statescope.Store.Blob
import Statescope.Store.Directory
import Statescope.Store.Documents
import Statescope.Store.Layouts
import Statescope.Store.Path
import Statescope.Store.Unreliable
import Statescope.Text.Blank
import Statescope.Text.Quoted
import Statescope.Text.Split
import Statescope.Text.Standalone
