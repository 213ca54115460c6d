-- SUMMARY: What a command of the explorer can make of its store: nothing, or one of the changes that loading, saving and exporting make.
import Statescope.Proofs.Explorer.Gestures
import Statescope.Proofs.Explorer.Render
import Statescope.Proofs.Store.Sound

/-!
# Changes of the store

Of all commands, only first snapshots, drags, exports and imports have to do with the store.
`storeChange_perform` says what becomes of it, in terms of the operations on layouts.
-/

namespace Statescope

/-! ## Restoring -/

namespace Drawing

variable [BlobStore σ]

theorem store_restore (d : Drawing) (s : LayoutStore σ) :
    (d.restore s).2.2 = (s.load d.fingerprint).2 := by
  unfold restore
  split <;> (rename_i hload; rw [hload])

theorem store_first {surface : Surface} {snapshot : Snapshot} {oracle : Option PositionOracle}
    {options : DrawingOptions} {s store : LayoutStore σ} {restored : Bool} {drawing : Drawing}
    (h : first surface snapshot oracle options s = (.ok (restored, drawing), store)) :
    store = (s.load (.ofElements snapshot.elements)).2 := by
  unfold first at h
  simp only at h
  split at h
  · cases h
  · cases h
    exact store_restore _ s

end Drawing

namespace Explorer

/-! ## Drags -/

/-- The layout that a command saves because a node is dragged, and for which diagram. -/
def dragged? (e : Explorer σ) : Command → Option (Fingerprint × SavedLayout)
  | .moveNode container id p => do
    let d ← e.diagrams[container]?
    let surface ← (d.drawing.surface.setPosition id p).toOption
    return (d.drawing.fingerprint, surface.nodePositions)
  | _ => none

/-- A drag saves the layout with the node where it has been dragged to. -/
theorem store_moveNode [BlobStore σ] (e : Explorer σ) (container id : String) (p : Position) :
    (e.moveNode container id p).store = match e.dragged? (.moveNode container id p) with
      | some (fp, l) => (e.store.save fp l).2
      | none => e.store := by
  unfold moveNode dragged?
  cases hd : e.diagrams[container]? with
  | none => simp [hd]
  | some d =>
    cases hmoved : d.drawing.surface.setPosition id p with
    | error cause => simp [hd, hmoved, Drawing.moveNode, Except.toOption, withDrawing, notify]
    | ok surface =>
      simp only [hd, hmoved, Drawing.moveNode, Except.toOption, Option.bind_eq_bind, Option.bind_some]
      split <;> rfl

/-! ## The store after a command -/

section Changes

variable [BlobStore σ]

/-- What can become of the store in a command. -/
inductive StoreChange (e : Explorer σ) : Command → LayoutStore σ → Prop where
  | idle (c : Command) : StoreChange e c e.store
  | first {container text : String} {now : Option Int} {s : Snapshot}
    (hread : Snapshot.read text = .ok s) :
    StoreChange e (.render container text true now)
      (e.seedLayouts.store.load (.ofElements s.elements)).2
  | moved {c : Command} {fp : Fingerprint} {l : SavedLayout} (h : e.dragged? c = some (fp, l)) :
    StoreChange e c (e.store.save fp l).2
  | exported {container : String} (hlive : e.diagrams.contains container = true) :
    StoreChange e (.exportLayouts container) e.store.exportText.2
  | imported {container text : String} (hlive : e.diagrams.contains container = true) :
    StoreChange e (.importLayouts container text) (e.store.importText text).2
  | restored {container text : String} {fps : List Fingerprint} {store : LayoutStore σ}
    {fp : Fingerprint} (hlive : e.diagrams.contains container = true)
    (himport : e.store.importText text = (.ok fps, store)) (hmem : fp ∈ fps) :
    StoreChange e (.importLayouts container text) (store.load fp).2

variable (e : Explorer σ)

theorem storeChange_render (container text : String) (isFirst : Bool) (now : Option Int) :
    StoreChange e (.render container text isFirst now)
      (e.render container text isFirst (now.getD e.now)).2.store := by
  cases hresult : (e.render container text isFirst (now.getD e.now)).1 with
  | error cause =>
    rw [reject_of_render hresult]
    exact .idle _
  | ok _ =>
    obtain ⟨s, hread, haccepts⟩ := accepts_of_render hresult
    generalize (e.render container text isFirst (now.getD e.now)).2 = e' at haccepts
    cases haccepts with
    | next => exact .idle _
    | @first drawing restored store hfirst =>
      change StoreChange e _ store
      rw [Drawing.store_first hfirst]
      exact .first hread

theorem storeChange_exportLayouts (container : String) :
    StoreChange e (.exportLayouts container) (e.exportLayouts container).2.store := by
  unfold exportLayouts
  split
  · rename_i hlive
    simp only
    split <;> exact .exported hlive
  · exact .idle _

theorem storeChange_importLayouts (container text : String) :
    StoreChange e (.importLayouts container text) (e.importLayouts container text).2.store := by
  unfold importLayouts
  cases hd : e.diagrams[container]? with
  | none => exact .idle _
  | some d =>
    have hlive : e.diagrams.contains container = true := by
      rw [← Std.ExtTreeMap.isSome_getElem?_eq_contains, hd, Option.isSome_some]
    have himported : StoreChange e (.importLayouts container text) (e.store.importText text).2 :=
      .imported hlive
    cases himport : e.store.importText text with
    | mk result store =>
      rw [himport] at himported
      cases result with
      | error cause => exact himported
      | ok fps =>
        by_cases hmem : d.drawing.fingerprint ∈ fps
        · have hrestored := StoreChange.restored hlive himport hmem
          rw [← Drawing.store_restore] at hrestored
          simp only [hmem, if_true]
          split <;> exact hrestored
        · simp only [hmem, if_false]
          split <;> exact himported

theorem storeChange_perform (c : Command) : StoreChange e c (e.perform c).2.store := by
  have hdriven (hdrives : c.drives = true) : StoreChange e c (e.perform c).2.store := by
    obtain ⟨_, _, hperform⟩ := e.perform_of_drives hdrives
    rw [hperform]
    exact .idle _
  cases c with
  | render container text isFirst now => exact e.storeChange_render container text isFirst now
  | moveNode container id p =>
    change StoreChange e _ (e.moveNode container id p).store
    rw [store_moveNode]
    cases hdragged : e.dragged? (.moveNode container id p) with
    | none => exact .idle _
    | some saved => exact .moved hdragged
  | exportLayouts container => exact e.storeChange_exportLayouts container
  | importLayouts container text => exact e.storeChange_importLayouts container text
  | tap | click | undo | setAutoAdvance => exact hdriven rfl
  | selectLayout container name =>
    obtain ⟨_, _, hselect⟩ := e.selectLayout_eq container name
    rw [perform, hselect]
    exact .idle _
  | dispose container =>
    obtain ⟨_, _, _, hdispose⟩ := e.dispose_eq container
    rw [perform, hdispose]
    exact .idle _
  | attachOracle | publishOracle | abandonOracle | tick | advance => exact .idle _

/-! ## What lasts -/

variable {e} {P : σ → Prop} (hstable : BlobStore.Stable P)

include hstable

theorem stable_seedLayouts (h : P e.store.store) : P e.seedLayouts.store.store := by
  unfold seedLayouts
  split
  · exact hstable.seed h _
  · exact h

theorem stable_perform (h : P e.store.store) (c : Command) : P (e.perform c).2.store.store := by
  have hchange := e.storeChange_perform c
  generalize (e.perform c).2.store = store at hchange
  cases hchange with
  | idle => exact h
  | first _ => exact hstable.load_layout (stable_seedLayouts hstable h) _
  | moved _ => exact hstable.save_layout h _ _
  | exported _ => exact hstable.exportText h
  | imported _ => exact hstable.importText h _
  | @restored container text fps store fp _ himport _ =>
    have hstore := hstable.importText h text
    rw [himport] at hstore
    exact hstable.load_layout hstore fp

/-- What saving and removing cannot take from a store, no commands can. -/
theorem stable_run (h : P e.store.store) (cs : List Command) : P (e.run cs).store.store := by
  induction cs generalizing e with
  | nil => exact h
  | cons c cs ih => exact ih (stable_perform hstable h c)

end Changes

end Explorer

end Statescope
