-- SUMMARY: Every failure is told of where it can be seen, by one notice, and what succeeds leaves the notices as they are.
import Statescope.Proofs.Explorer.Drags
import Statescope.Proofs.Explorer.Gestures

/-!
# Notices of failures

No failure leaves the explorer otherwise than by a reply and a notice. The notice can be seen
in the container as soon as the operation is over, whatever else is in the queue and whatever
the clock has said before (`failures_told`).
-/

namespace Statescope.Explorer

variable {σ : Type} {e e' : Explorer σ} {container : String} {now : Int} {content : NoticeContent}

/-! ## Being told -/

/-- From the one state to the other the container has been told something: it can see a notice
of it at the time, and this notice is the only one that has been renewed or has joined the
queue. -/
structure Tells (e e' : Explorer σ) (container : String) (now : Int) (content : NoticeContent) :
    Prop where
  seen : ∃ n ∈ e'.notices.visibleFor container now, n.content = content
  pushed : ∃ id, e.notices.Pushed content (noticeTtl content.kind) now id e'.notices

theorem noticeTtl_pos (kind : NoticeKind) : 0 < noticeTtl kind := by
  cases kind <;> decide

theorem tells_of_notices_eq
    (h : e'.notices = (e.notices.push content (noticeTtl content.kind) now).2)
    (hscope : content.scope = .everywhere ∨ content.scope = .container container) :
    Tells e e' container now content where
  seen := h ▸ e.notices.exists_mem_visibleFor_push hscope (noticeTtl_pos content.kind) now
  pushed := ⟨_, h ▸ e.notices.pushed_push content (noticeTtl content.kind) now⟩

/-! ## Renders -/

section Renders

variable [BlobStore σ] {text : String} {isFirst : Bool}

theorem tells_of_render {cause : ExplorerError}
    (h : (e.render container text isFirst now).1 = .error cause) :
    Tells e (e.render container text isFirst now).2 container now
      ⟨.error, .container container, "Diagram update rejected", some (cause.message e.host.wording)⟩ := by
  rw [reject_of_render h]
  exact tells_of_notices_eq rfl (.inr rfl)

theorem Accepts.notices_eq {s : Snapshot} (h : Accepts e container s now isFirst e') :
    e'.notices = e.notices := by
  cases h with
  | first _ =>
    obtain ⟨_, _, hprepare⟩ := prepareFirst_eq e container
    simp only [afterFirst, passTime, replaceDiagram, hprepare]
  | next _ _ => rfl

theorem notices_render_of_ok (h : (e.render container text isFirst now).1 = .ok ()) :
    (e.render container text isFirst now).2.notices = e.notices := by
  obtain ⟨_, -, haccepts⟩ := accepts_of_render h
  exact haccepts.notices_eq

end Renders

/-! ## Layouts by name -/

theorem tells_of_selectLayout {name : String} (hlive : e.diagrams[container]?.isSome = true)
    (h : (e.selectLayout container name).1 = none) :
    Tells e (e.selectLayout container name).2 container e.now
      ⟨.error, .container container, "Unknown layout", some (LayoutKind.unknownMessage name)⟩ := by
  obtain ⟨d, hd⟩ := Option.isSome_iff_exists.1 hlive
  cases hname : LayoutKind.ofName? name with
  | some kind => simp [selectLayout, hd, hname] at h
  | none =>
    refine tells_of_notices_eq ?_ (.inr rfl)
    simp only [selectLayout, hd, hname, notify]

/-! ## Bundles -/

section Bundles

variable [BlobStore σ]

/-- That there is nothing to export is no error of the store. -/
def exportComplaint (w : Wording) : LayoutError → NoticeContent
  | .empty => ⟨.info, .everywhere, "No saved layouts to export", none⟩
  | cause => ⟨.error, .everywhere, "Layout export failed", some (cause.message w)⟩

theorem tells_of_exportLayouts (hlive : e.diagrams.contains container = true)
    (h : (e.exportLayouts container).1 = none) :
    ∃ cause, e.store.exportText.1 = .error cause ∧
      Tells e (e.exportLayouts container).2 container e.now (exportComplaint e.host.wording cause) := by
  cases hexport : e.store.exportText with
  | mk result store =>
    cases result with
    | ok text => simp [exportLayouts, hlive, hexport] at h
    | error cause =>
      refine ⟨cause, rfl, ?_⟩
      cases cause <;>
        exact tells_of_notices_eq (by simp only [exportLayouts, hlive, hexport]; rfl) (.inl rfl)

theorem notices_exportLayouts_of_some {text : String}
    (h : (e.exportLayouts container).1 = some text) :
    (e.exportLayouts container).2.notices = e.notices := by
  cases hlive : e.diagrams.contains container with
  | false => simp [exportLayouts, hlive]
  | true =>
    cases hexport : e.store.exportText with
    | mk result store =>
      cases result with
      | ok text => simp [exportLayouts, hlive, hexport]
      | error cause => cases cause <;> simp [exportLayouts, hlive, hexport] at h

variable {d : Diagram} {text : String}

theorem tells_of_importLayouts_none (hd : e.diagrams[container]? = some d)
    (h : (e.importLayouts container text).1 = none) :
    ∃ cause, (e.store.importText text).1 = .error cause ∧
      Tells e (e.importLayouts container text).2 container e.now
        ⟨.error, .everywhere, "Layout import failed", some (cause.message e.host.wording)⟩ := by
  cases himport : e.store.importText text with
  | mk result store =>
    cases result with
    | ok fps => simp [importLayouts, hd, himport] at h
    | error cause =>
      refine ⟨cause, rfl, tells_of_notices_eq ?_ (.inl rfl)⟩
      simp only [importLayouts, hd, himport, notify]

theorem tells_of_importLayouts_zero (hd : e.diagrams[container]? = some d)
    (h : (e.importLayouts container text).1 = some 0) :
    Tells e (e.importLayouts container text).2 container e.now
      ⟨.warning, .everywhere, "No layouts found in file", none⟩ := by
  cases himport : e.store.importText text with
  | mk result store =>
    cases result with
    | error cause => simp [importLayouts, hd, himport] at h
    | ok fps =>
      simp only [importLayouts, hd, himport, Option.some.injEq, List.length_eq_zero_iff] at h
      subst h
      refine tells_of_notices_eq ?_ (.inl rfl)
      simp only [importLayouts, hd, himport, List.isEmpty_nil, if_true, notify, withDrawing]

end Bundles

/-! ## Drags -/

section Drags

variable [BlobStore σ] {d : Diagram} {id : String} {p : Position}

/-- A drag is stored if it moves a node, and the store takes the layout with the node where it
has been dragged to. -/
def StoresDrag (s : LayoutStore σ) (d : Drawing) (id : String) (p : Position) : Prop :=
  Element.IsNodeOf d.surface.elements id ∧
    (s.save d.fingerprint (d.surface.dragged id p).nodePositions).1 = .ok ()

variable (hd : e.diagrams[container]? = some d)
  (hnodup : (d.drawing.surface.elements.map (·.id)).Nodup)

include hd hnodup

theorem notices_moveNode_of_stored (h : StoresDrag e.store d.drawing id p) :
    (e.moveNode container id p).notices = e.notices := by
  obtain ⟨hnode, hresult⟩ := h
  have hmove := Drawing.moveNode_of_isNodeOf hnodup hnode (Prod.ext hresult rfl)
  rw [moveNode_of_ok hd hmove]
  rfl

theorem tells_of_not_stored (h : ¬ StoresDrag e.store d.drawing id p) :
    ∃ cause, (d.drawing.moveNode id p e.store).1 = .error cause ∧
      Tells e (e.moveNode container id p) container e.now
        ⟨.warning, .container container, "Layout not saved", some (cause.message e.host.wording)⟩ := by
  obtain ⟨cause, hcause⟩ : ∃ cause, (d.drawing.moveNode id p e.store).1 = .error cause := by
    by_cases hnode : Element.IsNodeOf d.drawing.surface.elements id
    · cases hsave : e.store.save d.drawing.fingerprint
          (d.drawing.surface.dragged id p).nodePositions with
      | mk result t =>
        have hmove := Drawing.moveNode_of_isNodeOf hnodup hnode hsave
        cases result with
        | ok _ => exact absurd ⟨hnode, congrArg Prod.fst hsave⟩ h
        | error cause => exact ⟨.layout cause, congrArg Prod.fst hmove⟩
    · obtain ⟨cause, hmove⟩ := Drawing.moveNode_of_not_isNodeOf hnode p e.store
      exact ⟨cause, congrArg Prod.fst hmove⟩
  refine ⟨cause, hcause, tells_of_notices_eq ?_ (.inr rfl)⟩
  rw [moveNode_eq_notify hd (Prod.ext hcause rfl)]
  rfl

end Drags

/-! ## All operations -/

section All

variable [BlobStore σ] {store : LayoutStore σ} {prefs : Prefs} {host : Host} {start : Int}
  {log : Log} {d : Diagram}

theorem notices_perform_of_drives {c : Command} (h : c.drives = true) :
    (e.perform c).2.notices = e.notices := by
  obtain ⟨_, _, hperform⟩ := e.perform_of_drives h
  rw [hperform]

/-- Arranging takes no time: what it tells can be seen at the time at which it ends. -/
theorem Tells.afterwards {c : Command} (htells : Tells e (e.perform c).2 container e.now content)
    (h : c.arranges = true) :
    Tells e (e.perform c).2 container (e.perform c).2.now content := by
  obtain ⟨_, _, _, hperform⟩ := e.perform_of_arranges h
  have hnow : (e.perform c).2.now = e.now := by rw [hperform]
  exact hnow ▸ htells

/-- What goes wrong is told of. A render that is refused, at whatever time, and an unknown
layout, an export or import without a result, an import of nothing and a drag that is not
stored leave a notice that the container can see then; it says what was wrong, and is the only
one that has been renewed or has joined the queue. The other renders, gestures that drive the
model, exports with a result, drags that are stored, and disposals leave the notices as they
were. -/
theorem failures_told (h : Run (initial store prefs host start) log e) (container : String) :
    (∀ text isFirst now cause, (e.render container text isFirst now).1 = .error cause →
      Tells e (e.render container text isFirst now).2 container now
        ⟨.error, .container container, "Diagram update rejected", some (cause.message e.host.wording)⟩) ∧
    (∀ d, e.diagrams[container]? = some d →
      (∀ name, (e.selectLayout container name).1 = none →
        Tells e (e.selectLayout container name).2 container (e.selectLayout container name).2.now
          ⟨.error, .container container, "Unknown layout",
            some (LayoutKind.unknownMessage name)⟩) ∧
      ((e.exportLayouts container).1 = none → ∃ cause, e.store.exportText.1 = .error cause ∧
        Tells e (e.exportLayouts container).2 container (e.exportLayouts container).2.now
          (exportComplaint e.host.wording cause)) ∧
      (∀ text, (e.importLayouts container text).1 = none →
        ∃ cause, (e.store.importText text).1 = .error cause ∧
          Tells e (e.importLayouts container text).2 container (e.importLayouts container text).2.now
            ⟨.error, .everywhere, "Layout import failed", some (cause.message e.host.wording)⟩) ∧
      (∀ text, (e.importLayouts container text).1 = some 0 →
        Tells e (e.importLayouts container text).2 container (e.importLayouts container text).2.now
          ⟨.warning, .everywhere, "No layouts found in file", none⟩) ∧
      ∀ id p, (¬ StoresDrag e.store d.drawing id p →
          ∃ cause, (d.drawing.moveNode id p e.store).1 = .error cause ∧
            Tells e (e.moveNode container id p) container (e.moveNode container id p).now
              ⟨.warning, .container container, "Layout not saved", some (cause.message e.host.wording)⟩) ∧
        (StoresDrag e.store d.drawing id p → (e.moveNode container id p).notices = e.notices)) ∧
    (∀ text isFirst now, (e.render container text isFirst now).1 = .ok () →
      (e.render container text isFirst now).2.notices = e.notices) ∧
    (∀ c : Command, c.drives = true → (e.perform c).2.notices = e.notices) ∧
    (∀ span, (e.advance span).notices = e.notices) ∧
    (∀ text, (e.exportLayouts container).1 = some text →
      (e.exportLayouts container).2.notices = e.notices) ∧
    (e.dispose container).2.notices = e.notices := by
  refine ⟨fun _ _ _ _ => tells_of_render, fun d hd => ?_, fun _ _ _ => notices_render_of_ok,
    fun _ => notices_perform_of_drives, fun _ => rfl, fun _ => notices_exportLayouts_of_some, ?_⟩
  · have hlive : e.diagrams[container]?.isSome = true := Option.isSome_iff_exists.2 ⟨d, hd⟩
    obtain ⟨_, -, hwf, hshows⟩ := exists_shows_of_run h hd
    have hnodup := (hshows.drawing.wellFormed hwf).nodup
    refine ⟨fun name hnone => ?_, fun hnone => ?_, fun text hnone => ?_, fun text hzero => ?_,
      fun id p => ⟨fun hrefused => ?_, notices_moveNode_of_stored hd hnodup⟩⟩
    · exact (tells_of_selectLayout hlive hnone).afterwards (c := .selectLayout container name) rfl
    · rw [Std.ExtTreeMap.isSome_getElem?_eq_contains] at hlive
      obtain ⟨cause, hcause, htells⟩ := tells_of_exportLayouts hlive hnone
      exact ⟨cause, hcause, htells.afterwards (c := .exportLayouts container) rfl⟩
    · obtain ⟨cause, hcause, htells⟩ := tells_of_importLayouts_none hd hnone
      exact ⟨cause, hcause, htells.afterwards (c := .importLayouts container text) rfl⟩
    · exact (tells_of_importLayouts_zero hd hzero).afterwards (c := .importLayouts container text) rfl
    · obtain ⟨cause, hcause, htells⟩ := tells_of_not_stored hd hnodup hrefused
      exact ⟨cause, hcause, htells.afterwards (c := .moveNode container id p) rfl⟩
  · obtain ⟨_, _, _, hdispose⟩ := e.dispose_eq container
    rw [hdispose]

end All

/-- A store that takes nothing, and a queue in which the complaint about a layout stands
already. The snapshot is refused at a time before all others. -/
theorem failures_told_of_refusing_store :
    let text := "[[[\"a\",\"state-node\"]],[true,[]]]"
    let start : Explorer (UnreliableStore MemoryStore) := initial ⟨⟨{}, [.save]⟩, false⟩ {} {} 0
    let e := start.run [.render "c" text true none, .selectLayout "c" "grid", .advance 400]
    let drop : Position := ⟨3, 4⟩
    ∃ d, e.diagrams["c"]? = some d ∧ ¬ StoresDrag e.store d.drawing "a" drop ∧
      Tells e (e.render "c" "" false (-5)).2 "c" (-5) ⟨.error, .container "c",
        "Diagram update rejected", some "malformed snapshot: not a snapshot document"⟩ ∧
      Tells e (e.selectLayout "c" "grid").2 "c" 400
        ⟨.error, .container "c", "Unknown layout", some (LayoutKind.unknownMessage "grid")⟩ ∧
      Tells e (e.exportLayouts "c").2 "c" 400
        ⟨.info, .everywhere, "No saved layouts to export", none⟩ ∧
      Tells e (e.importLayouts "c" "[]").2 "c" 400 ⟨.error, .everywhere, "Layout import failed",
        some "malformed layout bundle: not a bundle document"⟩ ∧
      Tells e (e.importLayouts "c" "\x7b\x7d").2 "c" 400
        ⟨.warning, .everywhere, "No layouts found in file", none⟩ ∧
      Tells e (e.moveNode "c" "a" drop) "c" 400 ⟨.warning, .container "c", "Layout not saved",
        some ((LayoutError.store (UnreliableStore.failure .save)).message {})⟩ ∧
      (e.perform (.tap "c" "a")).2.notices = e.notices := by
  intro text start e drop
  have hrun : Run start _ e := run_transcript start _
  have hshown : (e.diagrams["c"]?.any fun d => (d.drawing.moveNode "a" drop e.store).1
      = .error (.layout (.store (UnreliableStore.failure .save)))) = true := by decide +kernel
  obtain ⟨d, hd, hmove⟩ := (Option.any_eq_true _ _).1 hshown
  rw [decide_eq_true_iff] at hmove
  have hrefused : ¬ StoresDrag e.store d.drawing "a" drop := by
    rintro ⟨-, hsaved⟩
    have hfailing : .save ∈ e.store.store.failing := by decide +kernel
    simp only [LayoutStore.save, Documents.save, BlobStore.save, hfailing, if_true] at hsaved
    cases hsaved
  have hwording : e.host.wording = {} := congrArg Host.wording (settings_run start _).2
  obtain ⟨hrender, hlive, -, hdrives, -⟩ := failures_told hrun "c"
  rw [hwording] at hrender hlive
  obtain ⟨hselect, hexport, himport, hzero, hdrag⟩ := hlive d hd
  have hrender := hrender "" false (-5) (.snapshot (.malformed "")) (by decide +kernel)
  have hselect := hselect "grid" (by decide +kernel)
  obtain ⟨_, hempty, hexport⟩ := hexport (by decide +kernel)
  obtain ⟨_, hmalformed, himport⟩ := himport "[]" (by decide +kernel)
  have hzero := hzero "\x7b\x7d" (by decide +kernel)
  obtain ⟨_, hcause, hdrag⟩ := (hdrag "a" drop).1 hrefused
  have hnothing : e.store.exportText.1 = .error .empty := by decide +kernel
  have hnobundle : (e.store.importText "[]").1 = .error (.malformed "[]") := by decide +kernel
  cases hnothing.symm.trans hempty
  cases hnobundle.symm.trans hmalformed
  cases hmove.symm.trans hcause
  rw [show (e.selectLayout "c" "grid").2.now = 400 by decide +kernel] at hselect
  rw [show (e.exportLayouts "c").2.now = 400 by decide +kernel] at hexport
  rw [show (e.importLayouts "c" "[]").2.now = 400 by decide +kernel] at himport
  rw [show (e.importLayouts "c" "\x7b\x7d").2.now = 400 by decide +kernel] at hzero
  rw [show (e.moveNode "c" "a" drop).now = 400 by decide +kernel] at hdrag
  exact ⟨d, hd, hrefused, hrender, hselect, hexport, himport, hzero, hdrag,
    hdrives (.tap "c" "a") rfl⟩

end Statescope.Explorer
