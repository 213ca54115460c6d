-- SUMMARY: The path of states from the start of a simulation to where it is now.
import Statescope.Graph.Snapshot

/-!
# Traces

A trace lists the states that the model went through, the first one first. Once
it has a state, undoing leaves it at least one.
-/

namespace Statescope

structure Trace where
  history : List String := []
deriving DecidableEq

namespace Trace

/-- A trace that starts afresh. -/
def start (state : String) : Trace := ⟨[state]⟩

def push (t : Trace) (state : String) : Trace := ⟨t.history ++ [state]⟩

/-- Takes the last step back, but not the first state. -/
def undo (t : Trace) : Trace := if 1 < t.history.length then ⟨t.history.dropLast⟩ else t

def isEmpty (t : Trace) : Bool := t.history.isEmpty

def current? (t : Trace) : Option String := t.history.getLast?

def text (t : Trace) : String := " -> ".intercalate t.history

/-- The trace of a snapshot that starts a diagram. -/
def ofSnapshot (s : Snapshot) : Trace :=
  match s.currentState? with
  | some e => start e.id
  | none => {}

/-- Follows a snapshot that continues a diagram. A step without a transition leaves the
trace as it is; a reset without a current state empties it. -/
def observe (t : Trace) (s : Snapshot) : Trace :=
  match s.stepKind with
  | .step =>
    match s.lastTransition with
    | some transition => t.push transition.target
    | none => t
  | .undo => t.undo
  | .reset => ofSnapshot s

@[simp] theorem history_push (t : Trace) (state : String) :
    (t.push state).history = t.history ++ [state] := rfl

end Trace

end Statescope
