-- SUMMARY: Explorers with the same store, oracles and diagrams take the same snapshots in the same way, at whatever times.
import Statescope.Proofs.Explorer.Flashes

/-!
# Explorers that render alike

A refused snapshot leaves a notice behind, and with the diagram the reason. Nothing that is
rendered later depends on either, nor on the time, unless an oracle is waited for. `Alike`
says that two explorers do not differ in anything else that a diagram or a store comes from.

The highlight of an accepted snapshot ends at a time of its own. So what is alike after
one is the explorer without its highlights.
-/

namespace Statescope

/-- The diagram, whatever was wrong with the last snapshot. -/
def Diagram.withoutError (d : Diagram) : Diagram := { d with lastError := none }

theorem Diagram.unflashed_of_dark {d : Diagram} (h : d.drawing.flash = none) : d.unflashed = d := by
  rw [Diagram.unflashed, Drawing.unflashed_of_dark h]

namespace Explorer

/-- The diagrams, whatever was wrong with their last snapshots. -/
def shown (e : Explorer σ) : Dict Diagram := e.diagrams.map fun _ d => d.withoutError

@[simp] theorem getElem?_shown (e : Explorer σ) (c : String) :
    e.shown[c]? = e.diagrams[c]?.map Diagram.withoutError :=
  Std.ExtTreeMap.getElem?_map

/-- The explorer when all highlights are over. -/
def unflashed (e : Explorer σ) : Explorer σ :=
  { e with diagrams := e.diagrams.map fun _ d => d.unflashed }

/-- Nothing is highlighted. -/
def IsDark (e : Explorer σ) : Prop :=
  ∀ (c : String) (d : Diagram), e.diagrams[c]? = some d → d.drawing.flash = none

@[simp] theorem isDark_unflashed (e : Explorer σ) : e.unflashed.IsDark := by
  intro c d hd
  rw [unflashed, Std.ExtTreeMap.getElem?_map, Option.map_eq_some_iff] at hd
  obtain ⟨d₀, -, rfl⟩ := hd
  rfl

@[simp] theorem unflashed_insert (e : Explorer σ) (c : String) (d : Diagram) :
    unflashed { e with diagrams := e.diagrams.insert c d }
      = { e.unflashed with diagrams := e.unflashed.diagrams.insert c d.unflashed } := by
  simp only [unflashed, Dict.map_insert]

structure Alike (e e' : Explorer σ) : Prop where
  store : e.store = e'.store
  prefs : e.prefs = e'.prefs
  host : e.host = e'.host
  pending : e.pending = e'.pending
  shown : e.shown = e'.shown

namespace Alike

variable {e e' e'' : Explorer σ}

theorem refl (e : Explorer σ) : Alike e e := ⟨rfl, rfl, rfl, rfl, rfl⟩

theorem symm (h : Alike e e') : Alike e' e :=
  ⟨h.store.symm, h.prefs.symm, h.host.symm, h.pending.symm, h.shown.symm⟩

theorem trans (h : Alike e e') (h' : Alike e' e'') : Alike e e'' :=
  ⟨h.store.trans h'.store, h.prefs.trans h'.prefs, h.host.trans h'.host,
    h.pending.trans h'.pending, h.shown.trans h'.shown⟩

theorem diagram (h : Alike e e') (c : String) :
    e.diagrams[c]?.map Diagram.withoutError = e'.diagrams[c]?.map Diagram.withoutError := by
  rw [← getElem?_shown, ← getElem?_shown, h.shown]

theorem isSome_diagram (h : Alike e e') (c : String) :
    e.diagrams[c]?.isSome = e'.diagrams[c]?.isSome := by
  rw [← Option.isSome_map, h.diagram c, Option.isSome_map]

theorem contains (h : Alike e e') (c : String) : e.diagrams.contains c = e'.diagrams.contains c := by
  rw [← Std.ExtTreeMap.isSome_getElem?_eq_contains, ← Std.ExtTreeMap.isSome_getElem?_eq_contains,
    h.isSome_diagram c]

/-! ## Refused snapshots -/

theorem reject (e : Explorer σ) (c : String) (cause : ExplorerError) (now : Int) :
    Alike (e.reject c cause now) e := by
  refine ⟨rfl, rfl, rfl, rfl, Std.ExtTreeMap.ext_getElem? fun k => ?_⟩
  rw [getElem?_shown, getElem?_shown, Explorer.reject, notify, Dict.getElem?_modify]
  split
  · rw [Option.map_map]
    rfl
  · rfl

/-! ## Time -/

theorem passTime (e : Explorer σ) (stop : Int) : Alike (e.passTime stop) e :=
  ⟨rfl, rfl, rfl, rfl, rfl⟩

theorem unflashed (h : Alike e e') : Alike e.unflashed e'.unflashed := by
  refine ⟨h.store, h.prefs, h.host, h.pending, ?_⟩
  have hshown (e : Explorer σ) : e.unflashed.shown = e.shown.map fun _ d => d.unflashed := by
    refine Std.ExtTreeMap.ext_getElem? fun k => ?_
    rw [getElem?_shown, Explorer.unflashed, Std.ExtTreeMap.getElem?_map, Std.ExtTreeMap.getElem?_map,
      getElem?_shown, Option.map_map, Option.map_map]
    rfl
  rw [hshown, hshown, h.shown]

/-- The end of all highlights makes explorers alike that show the same diagrams then. -/
theorem of_unflashed (hstore : e.store = e'.store) (hprefs : e.prefs = e'.prefs)
    (hhost : e.host = e'.host) (hpending : e.pending = e'.pending)
    (hdiagrams : ∀ c : String, e.diagrams[c]? = e'.diagrams[c]?.map Diagram.unflashed) :
    Alike e e'.unflashed := by
  have heq : e.diagrams = e'.unflashed.diagrams := by
    refine Std.ExtTreeMap.ext_getElem? fun c => ?_
    rw [hdiagrams, Explorer.unflashed, Std.ExtTreeMap.getElem?_map]
  refine ⟨hstore, hprefs, hhost, hpending, ?_⟩
  rw [Explorer.shown, heq]
  rfl

theorem isDark (h : Alike e e') (hdark : e.IsDark) : e'.IsDark := by
  intro c d' hd'
  have hdiagram := h.diagram c
  rw [hd', Option.map_some, Option.map_eq_some_iff] at hdiagram
  obtain ⟨d, hd, heq⟩ := hdiagram
  have hflash : d.withoutError.drawing.flash = d'.withoutError.drawing.flash := by rw [heq]
  exact hflash.symm.trans (hdark c d hd)

/-! ## First snapshots -/

section First

variable [BlobStore σ]

theorem seedLayouts (h : Alike e e') : Alike e.seedLayouts e'.seedLayouts := by
  have hstore : e.seedLayouts.store = e'.seedLayouts.store := by
    unfold Explorer.seedLayouts
    rw [← h.prefs, ← h.host, ← h.store]
    split
    · rfl
    · exact h.store
  obtain ⟨store, heq⟩ := seedLayouts_eq e
  obtain ⟨store', heq'⟩ := seedLayouts_eq e'
  rw [heq, heq'] at hstore ⊢
  exact ⟨hstore, h.prefs, h.host, h.pending, h.shown⟩

/-- Without an oracle to wait for, nothing is received. -/
theorem prepareFirst (h : Alike e e') {c : String} (hpending : e.pending[c]? = none) :
    (e.prepareFirst c).1.received = (e'.prepareFirst c).1.received ∧
      Alike (e.prepareFirst c).2 (e'.prepareFirst c).2 := by
  have hreceived (e : Explorer σ) (hpending : e.pending[c]? = none) :
      (e.prepareFirst c).1.received = none ∧ ∃ surfaces,
        Alike (e.prepareFirst c).2 { e.seedLayouts with pending := e.pending.erase c, surfaces } := by
    obtain ⟨store, hseeded⟩ := seedLayouts_eq e
    simp only [Explorer.prepareFirst, hseeded, Explorer.takeFeed, hpending]
    exact ⟨rfl, _, passTime _ _⟩
  obtain ⟨hnone, surfaces, hprepared⟩ := hreceived e hpending
  obtain ⟨hnone', surfaces', hprepared'⟩ := hreceived e' (h.pending ▸ hpending)
  have hseeded := h.seedLayouts
  have hasked : Alike { e.seedLayouts with pending := e.pending.erase c, surfaces }
      { e'.seedLayouts with pending := e'.pending.erase c, surfaces := surfaces' } :=
    ⟨hseeded.store, hseeded.prefs, hseeded.host, congrArg (·.erase c) h.pending, hseeded.shown⟩
  exact ⟨hnone.trans hnone'.symm, hprepared.trans (hasked.trans hprepared'.symm)⟩

end First

/-! ## Accepted snapshots -/

theorem insert (h : Alike e e') (c : String) (d : Diagram) :
    Alike { e with diagrams := e.diagrams.insert c d } { e' with diagrams := e'.diagrams.insert c d } := by
  refine ⟨h.store, h.prefs, h.host, h.pending, ?_⟩
  have hshown (e : Explorer σ) : Explorer.shown { e with diagrams := e.diagrams.insert c d }
      = e.shown.insert c d.withoutError := Dict.map_insert e.diagrams c d Diagram.withoutError
  rw [hshown, hshown, h.shown]

theorem replaceDiagram (h : Alike e e') (c : String) (d : Diagram) :
    Alike (e.replaceDiagram c d) (e'.replaceDiagram c d) :=
  ⟨h.store, h.prefs, h.host, h.pending, (h.insert c d).shown⟩

/-- A snapshot that continues a diagram forgets what was wrong with the one before. But for
the end of the highlight, the time makes no difference. -/
theorem unflashed_continueDiagram {d d' : Diagram} (h : d.withoutError = d'.withoutError)
    (s : Snapshot) (now now' : Int) :
    (continueDiagram d s (d.drawing.updated s now)).unflashed
      = (continueDiagram d' s (d'.drawing.updated s now')).unflashed := by
  have hdrawing : (d.drawing.updated s now).unflashed = (d.drawing.updated s now').unflashed := by
    simp only [Drawing.unflashed, Drawing.flashed_updated]
    rfl
  cases d
  cases d'
  cases h
  simp only [continueDiagram, Diagram.unflashed, hdrawing]

variable [BlobStore σ] {c : String} {s : Snapshot} {now now' : Int} {isFirst : Bool}
  {f f' : Explorer σ}

theorem accepts (h : Alike e e') (hpending : e.pending[c]? = none) (hwf : Element.WellFormed s.elements)
    (haccepts : Accepts e c s now isFirst f) (haccepts' : Accepts e' c s now' isFirst f') :
    Alike f.unflashed f'.unflashed := by
  cases haccepts with
  | @first drawing restored store hfirst =>
    cases haccepts' with
    | @first drawing' restored' store' hfirst' =>
      obtain ⟨hreceived, hprepared⟩ := h.prepareFirst hpending
      rw [hreceived, h.prefs, hprepared.store] at hfirst
      cases hfirst.symm.trans hfirst'
      have hstored : Alike { (e.prepareFirst c).2 with store } { (e'.prepareFirst c).2 with store } :=
        ⟨rfl, hprepared.prefs, hprepared.host, hprepared.pending, hprepared.shown⟩
      have hreplaced := hstored.replaceDiagram c (startDiagram s drawing restored)
      exact ((passTime _ _).trans (hreplaced.trans (passTime _ _).symm)).unflashed
  | @next d drawing hd hupdate =>
    cases haccepts' with
    | @next d' drawing' hd' hupdate' =>
      have hsame : d.withoutError = d'.withoutError := by
        have hdiagram := h.diagram c
        rw [hd, hd'] at hdiagram
        exact Option.some_inj.1 hdiagram
      cases (Drawing.update_eq hwf _ _).symm.trans hupdate
      cases (Drawing.update_eq hwf _ _).symm.trans hupdate'
      rw [unflashed_insert, unflashed_insert, unflashed_continueDiagram hsame s now now']
      exact h.unflashed.insert c _

/-- What a snapshot makes of explorers that are alike is alike, but for the highlights. -/
theorem render (h : Alike e e') {text : String} (hread : Snapshot.read text = .ok s)
    (hlive : isFirst = true ∨ e.diagrams[c]?.isSome = true) (hpending : e.pending[c]? = none)
    (now now' : Int) :
    Alike (e.render c text isFirst now).2.unflashed (e'.render c text isFirst now').2.unflashed := by
  obtain ⟨s₁, hread₁, haccepts⟩ := accepts_of_render (render_of_read hread hlive now)
  rw [h.isSome_diagram c] at hlive
  obtain ⟨s₂, hread₂, haccepts'⟩ := accepts_of_render (render_of_read hread hlive now')
  cases hread.symm.trans hread₁
  cases hread.symm.trans hread₂
  exact h.accepts hpending (Snapshot.wellFormed_of_read hread) haccepts haccepts'

/-! ## Exports -/

theorem exportLayouts (h : Alike e e') (c : String) :
    (e.exportLayouts c).1 = (e'.exportLayouts c).1 ∧
      (e.exportLayouts c).2.store = (e'.exportLayouts c).2.store := by
  unfold Explorer.exportLayouts
  rw [h.contains c, h.store]
  split
  · simp only
    split <;> exact ⟨rfl, rfl⟩
  · exact ⟨rfl, h.store⟩

end Alike

end Explorer

end Statescope
