-- SUMMARY: The parts of an explorer that gestures can change.
import Statescope.Explorer.Commands

/-!
# Reach of gestures

Gestures that drive the model reach no further than the timers and the calls, and those that
arrange a diagram no further than the diagrams, the store and the notices.
-/

namespace Statescope

/-- Whether a command is a gesture that drives the model. -/
def Command.drives : Command → Bool
  | .tap .. | .click .. | .undo _ | .setAutoAdvance .. => true
  | _ => false

/-- Whether a command is a gesture that has to do with the layout of a diagram. -/
def Command.arranges : Command → Bool
  | .moveNode .. | .selectLayout .. | .exportLayouts _ | .importLayouts .. => true
  | _ => false

namespace Explorer

variable [BlobStore σ] (e : Explorer σ)

/-- Driving the model stops or starts a timer and calls the model, if anything. -/
theorem perform_of_drives {c : Command} (h : c.drives = true) :
    ∃ timers calls, (e.perform c).2 = { e with timers, calls } := by
  cases c with
  | tap container id =>
    simp only [perform, tap]
    split <;> exact ⟨_, _, rfl⟩
  | click container t =>
    simp only [perform, click]
    split <;> exact ⟨_, _, rfl⟩
  | undo container =>
    simp only [perform, undo]
    split <;> exact ⟨_, _, rfl⟩
  | setAutoAdvance container enabled seconds =>
    simp only [perform, setAutoAdvance]
    split
    · cases enabled with
      | false => exact ⟨_, _, rfl⟩
      | true =>
        simp only [if_true, startTimer]
        split <;> exact ⟨_, _, rfl⟩
    · exact ⟨_, _, rfl⟩
  | _ => cases h

theorem exportLayouts_eq (container : String) :
    ∃ store notices, (e.exportLayouts container).2 = { e with store, notices } := by
  unfold exportLayouts
  split
  · simp only
    split <;> exact ⟨_, _, rfl⟩
  · exact ⟨_, _, rfl⟩

omit [BlobStore σ] in
theorem selectLayout_eq (container name : String) :
    ∃ diagrams notices, (e.selectLayout container name).2 = { e with diagrams, notices } := by
  unfold selectLayout
  split
  · exact ⟨_, _, rfl⟩
  · split <;> exact ⟨_, _, rfl⟩

theorem moveNode_eq (container id : String) (p : Position) :
    ∃ diagrams store notices, e.moveNode container id p = { e with diagrams, store, notices } := by
  unfold moveNode
  split
  · exact ⟨_, _, _, rfl⟩
  · simp only
    split <;> exact ⟨_, _, _, rfl⟩

theorem importLayouts_eq (container text : String) :
    ∃ diagrams store notices,
      (e.importLayouts container text).2 = { e with diagrams, store, notices } := by
  unfold importLayouts
  split
  · exact ⟨_, _, _, rfl⟩
  · simp only
    split
    · simp only
      split <;> exact ⟨_, _, _, rfl⟩
    · exact ⟨_, _, _, rfl⟩

omit [BlobStore σ] in
theorem dispose_eq (container : String) :
    ∃ diagrams timers surfaces, (e.dispose container).2 = { e with diagrams, timers, surfaces } := by
  unfold dispose
  split <;> exact ⟨_, _, _, rfl⟩

/-- Arranging touches neither the timers nor the calls. -/
theorem perform_of_arranges {c : Command} (h : c.arranges = true) :
    ∃ diagrams store notices, (e.perform c).2 = { e with diagrams, store, notices } := by
  cases c with
  | moveNode container id p => exact e.moveNode_eq container id p
  | selectLayout container name =>
    obtain ⟨diagrams, notices, hselect⟩ := e.selectLayout_eq container name
    exact ⟨diagrams, e.store, notices, hselect⟩
  | exportLayouts container =>
    obtain ⟨store, notices, hexport⟩ := e.exportLayouts_eq container
    exact ⟨e.diagrams, store, notices, hexport⟩
  | importLayouts container text => exact e.importLayouts_eq container text
  | _ => cases h

end Explorer

end Statescope
