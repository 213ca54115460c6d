-- SUMMARY: Runs of an explorer: commands with their replies, while others may write to its store and change its host.
import Statescope.Explorer.Commands

/-!
# Runs

A run leads from one state of an explorer to another, through any commands in any
order. The store and the host are not the explorer's alone: between two commands
they may become anything. What a store answers within a command is up to its type,
failures included.
-/

namespace Statescope

/-- The commands carried out so far, each with its reply, oldest first. -/
abbrev Log := List (Command × Reply)

namespace Explorer

variable [BlobStore σ]

/-- An explorer into which nothing has been rendered yet. -/
def initial (store : LayoutStore σ) (prefs : Prefs) (host : Host) (now : Int) : Explorer σ :=
  { store, prefs, host, now }

inductive Run (e : Explorer σ) : Log → Explorer σ → Prop where
  | nil : Run e [] e
  | perform {log : Log} {e' : Explorer σ} (c : Command) (h : Run e log e') :
    Run e (log ++ [(c, (e'.perform c).1)]) (e'.perform c).2
  | outside {log : Log} {e' : Explorer σ} (store : σ) (host : Host) (h : Run e log e') :
    Run e log { e' with store := { e'.store with store }, host }

theorem Run.trans {e e' e'' : Explorer σ} {log log' : Log} (h : Run e log e')
    (h' : Run e' log' e'') : Run e (log ++ log') e'' := by
  induction h' with
  | nil => simpa using h
  | perform c _ ih =>
    rw [← List.append_assoc]
    exact .perform c ih
  | outside store host _ ih => exact .outside store host ih

theorem Run.exists_render {e e' : Explorer σ} {log : Log} (h : Run e log e')
    (container text : String) (isFirst : Bool) (now : Int) :
    ∃ log', Run e log' (e'.render container text isFirst now).2 :=
  ⟨_, h.perform (.render container text isFirst (some now))⟩

/-- The log of a list of commands. -/
def transcript (e : Explorer σ) : List Command → Log
  | [] => []
  | c :: cs => (c, (e.perform c).1) :: (e.perform c).2.transcript cs

/-- Every list of commands makes a run. -/
theorem run_transcript (e : Explorer σ) (cs : List Command) : Run e (e.transcript cs) (e.run cs) := by
  induction cs generalizing e with
  | nil => exact .nil
  | cons c cs ih => exact (Run.perform c Run.nil).trans (ih _)

end Explorer

/-! ## Accepted snapshots -/

namespace Log

/-- The snapshot that a command has brought into a container. -/
def accepted? (container : String) : Command × Reply → Option Snapshot
  | (.render c text _ _, .rendered (.ok ())) =>
    if c = container then (Snapshot.read text).toOption else none
  | _ => none

/-- The last snapshot that has been brought into a container. -/
def lastAccepted? (log : Log) (container : String) : Option Snapshot :=
  (log.filterMap (accepted? container)).getLast?

/-- What has been read off a log last is what the last event gives, if it gives anything. -/
theorem getLast?_filterMap_concat (f : Command × Reply → Option α) (log : Log)
    (event : Command × Reply) :
    ((log ++ [event]).filterMap f).getLast? = (f event).or (log.filterMap f).getLast? := by
  rw [List.filterMap_append]
  cases h : f event <;> simp [h]

theorem lastAccepted?_concat_of_some {log : Log} {container : String} {event : Command × Reply}
    {s : Snapshot} (h : accepted? container event = some s) :
    lastAccepted? (log ++ [event]) container = some s := by
  rw [lastAccepted?, getLast?_filterMap_concat, h, Option.some_or]

theorem lastAccepted?_concat_of_none {log : Log} {container : String} {event : Command × Reply}
    (h : accepted? container event = none) :
    lastAccepted? (log ++ [event]) container = lastAccepted? log container := by
  rw [lastAccepted?, getLast?_filterMap_concat, h, Option.none_or, lastAccepted?]

theorem accepted?_render (container : String) {text : String} (isFirst : Bool) (now : Option Int)
    {s : Snapshot} (h : Snapshot.read text = .ok s) :
    accepted? container (.render container text isFirst now, .rendered (.ok ())) = some s := by
  simp [accepted?, h, Except.toOption]

theorem accepted?_of_error (container : String) {c text : String} {isFirst : Bool}
    {now : Option Int} {reply : Reply} {cause : SnapshotError}
    (h : Snapshot.read text = .error cause) :
    accepted? container (.render c text isFirst now, reply) = none := by
  unfold accepted?
  split
  · rename_i heq
    cases heq
    simp [h, Except.toOption]
  · rfl

end Log

end Statescope
