-- SUMMARY: The trace of a diagram is the undo stack of the engine behind it, through steps, undos and resets.
import Statescope.Proofs.Explorer.Diagrams

/-!
# Undo stacks

An engine that can undo keeps a stack of the states that it has visited. `Follows` ties
such an engine to an explorer: for each of its moves it sends a snapshot, and what else
happens to the explorer in between does not concern it, texts that are refused included.
The trace of the diagram is the stack of the engine all the while (`trace_of_follows`).
-/

namespace Statescope

/-! ## Engines -/

/-- The states that an engine has visited since its last start. There is always one. -/
structure UndoStack where
  seed : String
  /-- The states after the first one, the latest first. -/
  later : List String := []
deriving DecidableEq

namespace UndoStack

/-- All states, the first one first. -/
def states (s : UndoStack) : List String := s.seed :: s.later.reverse

def push (s : UndoStack) (state : String) : UndoStack := { s with later := state :: s.later }

/-- Takes the last state back, but not the first one. -/
def pop (s : UndoStack) : UndoStack := { s with later := s.later.tail }

@[simp] theorem states_push (s : UndoStack) (state : String) :
    (s.push state).states = s.states ++ [state] := by
  simp [states, push]

@[simp] theorem states_pop (s : UndoStack) :
    s.pop.states = if 1 < s.states.length then s.states.dropLast else s.states := by
  obtain ⟨seed, later⟩ := s
  cases later with
  | nil => rfl
  | cons state later => simp [states, pop, List.dropLast_cons_of_ne_nil]

end UndoStack

inductive EngineMove where
  | step (t : Transition)
  | undo
  /-- Start again in some state. -/
  | reset (state : String)
deriving DecidableEq

namespace EngineMove

def apply : EngineMove → UndoStack → UndoStack
  | .step t, s => s.push t.target
  | .undo, s => s.pop
  | .reset state, _ => ⟨state, []⟩

/-- The snapshots that tell of a move. A step or an undo need not be declared, if the
transition or the lack of one says it as well. -/
def Tells : EngineMove → Snapshot → Prop
  | .step t, s => s.lastTransition = some t ∧ (s.declaredKind = none ∨ s.declaredKind = some .step)
  | .undo, s => s.declaredKind = some .undo ∨ s.declaredKind = none ∧ s.lastTransition = none
  | .reset state, s => s.declaredKind = some .reset ∧ s.currentState?.map (·.id) = some state

instance (m : EngineMove) : DecidablePred m.Tells := fun _ =>
  match m with
  | .step _ => inferInstanceAs (Decidable (_ ∧ _))
  | .undo => inferInstanceAs (Decidable (_ ∨ _))
  | .reset _ => inferInstanceAs (Decidable (_ ∧ _))

end EngineMove

/-! ## Traces -/

namespace Trace

@[simp] theorem history_ofSnapshot {s : Snapshot} {state : String}
    (h : s.currentState?.map (·.id) = some state) : (ofSnapshot s).history = [state] := by
  obtain ⟨e, he, rfl⟩ := Option.map_eq_some_iff.1 h
  simp only [ofSnapshot, he, start]

/-- A trace that is the stack of an engine is so after the next move. -/
theorem history_observe {t : Trace} {stack : UndoStack} (ht : t.history = stack.states)
    {m : EngineMove} {s : Snapshot} (h : m.Tells s) :
    (t.observe s).history = (m.apply stack).states := by
  cases m with
  | step transition =>
    obtain ⟨htransition, hkind⟩ := h
    have hstep : s.stepKind = .step := by
      rcases hkind with hkind | hkind <;> simp [Snapshot.stepKind, hkind, htransition]
    simp only [observe, hstep, htransition, history_push, ht, EngineMove.apply,
      UndoStack.states_push]
  | undo =>
    have hundo : s.stepKind = .undo := by
      rcases h with hkind | ⟨hkind, htransition⟩
      · simp [Snapshot.stepKind, hkind]
      · simp [Snapshot.stepKind, hkind, htransition]
    simp only [observe, hundo, undo, ht, EngineMove.apply, UndoStack.states_pop]
    split
    · rfl
    · exact ht
  | reset state =>
    obtain ⟨hkind, hcurrent⟩ := h
    have hreset : s.stepKind = .reset := by simp [Snapshot.stepKind, hkind]
    simp only [observe, hreset, history_ofSnapshot hcurrent]
    rfl

end Trace

/-! ## Diagrams -/

namespace Diagram

/-- The trace and its text on the panel are those of a stack. -/
structure Traces (stack : UndoStack) (d : Diagram) : Prop where
  history : d.trace.history = stack.states
  panel : d.panel.trace = some (" -> ".intercalate stack.states)

theorem Traces.step {stack : UndoStack} {d d' : Diagram} (h : Traces stack d) (hstep : d.Step d') :
    Traces stack d' :=
  ⟨hstep.trace_eq ▸ h.history, hstep.panel_eq ▸ h.panel⟩

theorem traces_of_build {stack : UndoStack} {d : Diagram} {data : PanelData}
    (hhistory : d.trace.history = stack.states) (hpanel : d.panel = .build data d.trace) :
    Traces stack d := by
  refine ⟨hhistory, ?_⟩
  rw [hpanel, PanelView.build, Trace.isEmpty, Trace.text, hhistory]
  rfl

theorem Takes.traces_first {s : Snapshot} {old : Option Diagram} {d : Diagram} {state : String}
    (h : Takes s true old d) (hcurrent : s.currentState?.map (·.id) = some state) :
    Traces ⟨state, []⟩ d := by
  cases h with
  | first _ _ _ => exact traces_of_build (Trace.history_ofSnapshot hcurrent) rfl

theorem Takes.traces_next {s : Snapshot} {stack : UndoStack} {d d' : Diagram} {m : EngineMove}
    (h : Takes s false (some d) d') (hd : Traces stack d) (htells : m.Tells s) :
    Traces (m.apply stack) d' := by
  cases h with
  | next _ _ => exact traces_of_build (Trace.history_observe hd.history htells) rfl

end Diagram

/-! ## Explorers -/

namespace Explorer

variable [BlobStore σ] {container : String} {stack : UndoStack} {e : Explorer σ}

/-- An engine with this stack has had its snapshots rendered in a container, from a first
one on. Whatever else happens brings no snapshot into the container and does not dispose of
its diagram. -/
inductive Follows (container : String) : UndoStack → Explorer σ → Prop where
  | first (e : Explorer σ) {text : String} {s : Snapshot} {state : String}
    (hread : Snapshot.read text = .ok s) (hcurrent : s.currentState?.map (·.id) = some state)
    (now : Option Int) : Follows container ⟨state, []⟩ (e.perform (.render container text true now)).2
  | move {stack : UndoStack} {e : Explorer σ} (h : Follows container stack e) (m : EngineMove)
    {text : String} {s : Snapshot} (hread : Snapshot.read text = .ok s) (htells : m.Tells s)
    (now : Option Int) :
    Follows container (m.apply stack) (e.perform (.render container text false now)).2
  | other {stack : UndoStack} {e : Explorer σ} (h : Follows container stack e) (c : Command)
    (hrefused : Log.accepted? container (c, (e.perform c).1) = none)
    (hkept : c ≠ .dispose container) : Follows container stack (e.perform c).2
  | outside {stack : UndoStack} {e : Explorer σ} (h : Follows container stack e)
    (store : σ) (host : Host) :
    Follows container stack { e with store := { e.store with store }, host }

/-- A text that is refused is nothing to the engine, wherever it is rendered and as what. -/
theorem Follows.refused (h : Follows container stack e) {text : String} {cause : SnapshotError}
    (hread : Snapshot.read text = .error cause) (c : String) (isFirst : Bool) (now : Option Int) :
    Follows container stack (e.perform (.render c text isFirst now)).2 :=
  .other h _ (Log.accepted?_of_error container hread) nofun

theorem exists_traces_of_follows (h : Follows container stack e) :
    ∃ d : Diagram, e.diagrams[container]? = some d ∧ d.Traces stack := by
  induction h with
  | first e hread hcurrent now =>
    obtain ⟨d, hd, htakes⟩ := exists_takes_of_read e container hread (.inl rfl) now
    exact ⟨d, hd, htakes.traces_first hcurrent⟩
  | @move stack e _ m _ _ hread htells now ih =>
    obtain ⟨d, hd, htraces⟩ := ih
    obtain ⟨d', hd', htakes⟩ := exists_takes_of_read e container hread (.inr (hd ▸ rfl)) now
    exact ⟨d', hd', (hd ▸ htakes).traces_next htraces htells⟩
  | @other stack e _ c hrefused hkept ih =>
    obtain ⟨d, hd, htraces⟩ := ih
    obtain ⟨d', hd', hstep⟩ := (changes_perform e c).exists_step hd hrefused hkept
    exact ⟨d', hd', htraces.step hstep⟩
  | outside _ store host ih => exact ih

/-- While an engine has its moves rendered, the trace of the diagram is its stack: the first
entry is where it has last started, and there is always one. The panel shows the stack as a
text. -/
theorem trace_of_follows (h : Follows container stack e) :
    ∃ d, e.diagrams[container]? = some d ∧ d.trace.history = stack.states ∧
      d.trace.history.head? = some stack.seed ∧ 1 ≤ d.trace.history.length ∧
      d.panel.trace = some (" -> ".intercalate stack.states) := by
  obtain ⟨d, hd, htraces⟩ := exists_traces_of_follows h
  refine ⟨d, hd, htraces.history, ?_, ?_, htraces.panel⟩
  · rw [htraces.history, UndoStack.states, List.head?_cons]
  · rw [htraces.history, UndoStack.states, List.length_cons]
    exact Nat.le_add_left 1 _

/-- From `a` to `b` and on to `c`, and back again. One text on the way is not even JSON. -/
theorem trace_of_follows_of_undo :
    let commands := [
      .render "k" "[[[\"a\",\"state-node\",\"\",[\"current-state\"]]],[true,[]]]" true none,
      .render "k" "[[],[true,[]],[\"a\",\"b\"]]" false none,
      .render "k" "" true none,
      .render "k" "[[],[true,[]],[\"b\",\"c\"],\"step\"]" false none,
      .render "k" "[[],[true,[]]]" false none]
    let start : Explorer MemoryStore := initial ⟨{}, false⟩ {} {} 0
    ∃ d, (start.run commands).diagrams["k"]? = some d ∧ d.trace.history = ["a", "b"] ∧
      d.trace.history.head? = some "a" ∧ 1 ≤ d.trace.history.length ∧
      d.panel.trace = some "a -> b" := by
  intro commands start
  obtain ⟨_, hfirst, hcurrent⟩ : ∃ s, Snapshot.read
      "[[[\"a\",\"state-node\",\"\",[\"current-state\"]]],[true,[]]]" = .ok s ∧
      s.currentState?.map (·.id) = some "a" := Snapshot.exists_read_of_any (by decide +kernel)
  obtain ⟨_, hstep, htells⟩ : ∃ s, Snapshot.read "[[],[true,[]],[\"a\",\"b\"]]" = .ok s ∧
      (EngineMove.step ⟨"a", "b", "", false⟩).Tells s := Snapshot.exists_read_of_any (by decide +kernel)
  obtain ⟨_, hstep', htells'⟩ : ∃ s,
      Snapshot.read "[[],[true,[]],[\"b\",\"c\"],\"step\"]" = .ok s ∧
      (EngineMove.step ⟨"b", "c", "", false⟩).Tells s := Snapshot.exists_read_of_any (by decide +kernel)
  obtain ⟨_, hundo, htells''⟩ : ∃ s, Snapshot.read "[[],[true,[]]]" = .ok s ∧
      EngineMove.undo.Tells s := Snapshot.exists_read_of_any (by decide +kernel)
  have hmalformed : Snapshot.read "" = .error (.malformed "") := rfl
  -- The stack after each of the renders.
  have h₁ : Follows "k" ⟨"a", []⟩ (start.run (commands.take 1)) :=
    .first start hfirst hcurrent none
  have h₂ := h₁.move (.step ⟨"a", "b", "", false⟩) hstep htells none
  have h₃ := h₂.refused hmalformed "k" true none
  have h₄ := h₃.move (.step ⟨"b", "c", "", false⟩) hstep' htells' none
  have h₅ : Follows "k" ⟨"a", ["b"]⟩ (start.run commands) := h₄.move .undo hundo htells'' none
  exact trace_of_follows h₅

end Explorer

end Statescope
