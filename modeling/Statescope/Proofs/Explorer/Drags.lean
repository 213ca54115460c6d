-- SUMMARY: A drag saves where all nodes are, and the text that the diagram was started with brings them back there.
import Statescope.Proofs.Explorer.Consistency
import Statescope.Proofs.Session.Notice
import Statescope.Proofs.Session.Start
import Statescope.Proofs.Store.Keeping

/-!
# Drags

A drag moves one node and saves the layout under the fingerprint of the snapshot that the
diagram was started with. Whatever has been shown since, this is the fingerprint that the
same text leads to when it starts a diagram again, so that what was saved is found then and
goes before any oracle and any layout (`drag_durable`).
-/

namespace Statescope

open Element

/-! ## Drawings -/

namespace Drawing

variable [BlobStore σ] {d : Drawing} {id : String}

theorem moveNode_of_isNodeOf (hnodup : (d.surface.elements.map (·.id)).Nodup)
    (h : IsNodeOf d.surface.elements id) {p : Position} {s t : LayoutStore σ}
    {result : Except LayoutError Unit}
    (hsave : s.save d.fingerprint (d.surface.dragged id p).nodePositions = (result, t)) :
    d.moveNode id p s
      = (result.mapError .layout, { d with surface := d.surface.dragged id p }, t) := by
  simp only [moveNode, Surface.setPosition_of_isNodeOf hnodup h, saveLayout, hsave]

theorem moveNode_of_not_isNodeOf (h : ¬ IsNodeOf d.surface.elements id) (p : Position)
    (s : LayoutStore σ) : ∃ cause, d.moveNode id p s = (.error cause, d, s) := by
  obtain ⟨cause, hcause⟩ := Surface.setPosition_of_not_isNodeOf h p
  exact ⟨.surface cause, by rw [moveNode, hcause]⟩

/-- Where a layout has been saved, the nodes that it names start there. -/
theorem position?_first {s : Snapshot} {oracle : Option PositionOracle} {options : DrawingOptions}
    {store : LayoutStore σ} {restored : Bool} (hwf : WellFormed s.elements)
    (hd : (first {} s oracle options store).1 = .ok (restored, d)) {saved : SavedLayout}
    (hload : (store.load (.ofElements s.elements)).1 = some saved) (hid : IsNodeOf s.elements id)
    {p : Position} (hp : saved[id]? = some p) : d.surface.position? id = some p := by
  obtain ⟨a, ha, hnode, rfl⟩ := hid
  have hfound : s.elements.find? (·.id = a.id) = some a := find?_eq_some_of_mem hwf.nodup ha
  rw [Surface.position?_of_map (elements_first hwf hd) (fun a => id_goTo _ a), hfound,
    Option.bind_eq_bind, Option.bind_some, goTo_of_isNode hnode, startPosition, hload,
    Option.bind_eq_bind, Option.bind_some, hp, Option.getD_some]

end Drawing

/-! ## Starts -/

namespace Log

/-- The text that a command has started the diagram of a container with. -/
def started? (container : String) : Command × Reply → Option String
  | (.render c text true _, .rendered (.ok ())) => if c = container then some text else none
  | _ => none

/-- The text that the diagram of a container has been started with last. -/
def lastStarted? (log : Log) (container : String) : Option String :=
  (log.filterMap (started? container)).getLast?

theorem lastStarted?_concat_of_none {log : Log} {container : String} {event : Command × Reply}
    (h : started? container event = none) :
    lastStarted? (log ++ [event]) container = lastStarted? log container := by
  rw [lastStarted?, getLast?_filterMap_concat, h, Option.none_or, lastStarted?]

theorem lastStarted?_concat_render (log : Log) (container text : String) (now : Option Int) :
    lastStarted? (log ++ [(.render container text true now, .rendered (.ok ()))]) container
      = some text := by
  rw [lastStarted?, getLast?_filterMap_concat, started?, if_pos rfl, Option.some_or]

theorem exists_of_started? {container text : String} {c : Command} {reply : Reply}
    (h : started? container (c, reply) = some text) :
    ∃ now, c = .render container text true now ∧ reply = .rendered (.ok ()) := by
  unfold started? at h
  split at h
  · rename_i now heq
    cases heq
    rw [Option.ite_none_right_eq_some, Option.some_inj] at h
    obtain ⟨rfl, rfl⟩ := h
    exact ⟨now, rfl, rfl⟩
  · cases h

end Log

namespace Explorer

variable [BlobStore σ] {e : Explorer σ} {container : String} {d : Diagram}

section Starts

/-- What brings no snapshot into a container does not start its diagram. -/
theorem started?_eq_none {c : Command} (h : Log.accepted? container (c, (e.perform c).1) = none) :
    Log.started? container (c, (e.perform c).1) = none := by
  rw [Option.eq_none_iff_forall_ne_some]
  intro text hstarted
  obtain ⟨now, rfl, hreply⟩ := Log.exists_of_started? hstarted
  have hresult : (e.render container text true (now.getD e.now)).1 = .ok () :=
    Reply.rendered.inj hreply
  obtain ⟨s, hread, -⟩ := accepts_of_render hresult
  rw [hreply, Log.accepted?_render container true now hread] at h
  cases h

/-- A diagram goes by the fingerprint of the text that it has been started with. -/
theorem exists_started_of_run {store : LayoutStore σ} {prefs : Prefs} {host : Host}
    {now : Int} {log : Log} (h : Run (initial store prefs host now) log e)
    (hd : e.diagrams[container]? = some d) :
    ∃ text s, log.lastStarted? container = some text ∧ Snapshot.read text = .ok s ∧
      d.drawing.fingerprint = .ofElements s.elements := by
  induction h generalizing d with
  | nil => simp [initial] at hd
  | outside store host _ ih => exact ih hd
  | @perform log e c _ ih =>
    rcases (changes_perform e c).takes_or_step hd with
      ⟨text, isFirst, now, s, rfl, hreply, hread, htakes⟩ | ⟨hrefused, d₀, hd₀, hstep⟩
    · cases isFirst with
      | true =>
        cases htakes with
        | first _ _ hfingerprint =>
          rw [hreply]
          exact ⟨text, s, Log.lastStarted?_concat_render log container text now, hread, hfingerprint⟩
      | false =>
        generalize hold : e.diagrams[container]? = old at htakes
        cases htakes with
        | @next d₀ _ _ hfingerprint =>
          obtain ⟨text', s', htext, hread', hfp⟩ := ih hold
          exact ⟨text', s', (Log.lastStarted?_concat_of_none rfl).trans htext, hread',
            hfingerprint.trans hfp⟩
    · obtain ⟨text, s, htext, hread, hfp⟩ := ih hd₀
      have hkept := started?_eq_none hrefused
      exact ⟨text, s, (Log.lastStarted?_concat_of_none hkept).trans htext, hread,
        hstep.fingerprint_eq.trans hfp⟩

end Starts

/-! ## Drags -/

/-- The user is told at once that the layout of a container has not been saved. -/
def TellsNotSaved (e : Explorer σ) (container : String) : Prop :=
  ∃ n ∈ e.notices.visibleFor container e.now, n.content.kind = .warning ∧
    n.content.scope = .container container ∧ n.content.title = "Layout not saved"

theorem moveNode_of_ok (hd : e.diagrams[container]? = some d) {id : String} {p : Position}
    {drawing : Drawing} {store : LayoutStore σ}
    (h : d.drawing.moveNode id p e.store = (.ok (), drawing, store)) :
    e.moveNode container id p = e.withDrawing container d drawing store := by
  simp only [moveNode, hd, h]

theorem moveNode_eq_notify (hd : e.diagrams[container]? = some d) {id : String} {p : Position}
    {cause : MoveError} {drawing : Drawing} {store : LayoutStore σ}
    (h : d.drawing.moveNode id p e.store = (.error cause, drawing, store)) :
    e.moveNode container id p = (e.withDrawing container d drawing store).notify .warning
      (.container container) "Layout not saved" (some (cause.message e.host.wording)) e.now := by
  simp only [moveNode, hd, h]
  rfl

/-- A drag that is not saved is told of. -/
theorem moveNode_of_error (hd : e.diagrams[container]? = some d) {id : String} {p : Position}
    {cause : MoveError} {drawing : Drawing} {store : LayoutStore σ}
    (h : d.drawing.moveNode id p e.store = (.error cause, drawing, store)) :
    (e.moveNode container id p).diagrams = e.diagrams.insert container { d with drawing } ∧
      (e.moveNode container id p).store = store ∧
      (e.moveNode container id p).TellsNotSaved container := by
  rw [moveNode_eq_notify hd h]
  refine ⟨rfl, rfl, ?_⟩
  have hscope : (NoticeContent.mk .warning (.container container) "Layout not saved"
    (some (cause.message e.host.wording))).scope = .container container := rfl
  have httl : 0 < noticeTtl .warning := by decide
  obtain ⟨n, hn, hcontent⟩ := e.notices.exists_mem_visibleFor_push (.inr hscope) httl e.now
  exact ⟨n, hn, by rw [hcontent], by rw [hcontent], by rw [hcontent]⟩

/-! ## Starting again -/

/-- The text, rendered first by any explorer on the store, starts a diagram in which the nodes
of the snapshot that the positions name are there. -/
def Restores (store : σ) (text : String) (s : Snapshot) (positions : SavedLayout) : Prop :=
  ∀ (e : Explorer σ) (container : String) (now : Int), e.store.store = store →
    (e.render container text true now).1 = .ok () ∧
      ∃ d, (e.render container text true now).2.diagrams[container]? = some d ∧
        ∀ id p, IsNodeOf s.elements id → positions[id]? = some p →
          d.drawing.surface.position? id = some p

section Again

variable [KeepingStore σ] {fp : Fingerprint} {l : SavedLayout} {s t : LayoutStore σ}

/-- Getting ready for a diagram does not seed over a layout that has been saved. -/
theorem store_prepareFirst (hsave : s.save fp l = (.ok (), t)) (he : e.store.store = t.store)
    (container : String) : (e.prepareFirst container).2.store.store = t.store := by
  change e.seedLayouts.store.store = t.store
  unfold seedLayouts
  split
  · exact LayoutStore.store_seed_of_save hsave he _
  · exact he

/-- A layout that has been saved and can be loaded is restored by the text it belongs to. -/
theorem restores_of_save {text : String} {snapshot : Snapshot}
    (hread : Snapshot.read text = .ok snapshot)
    (hsave : s.save (.ofElements snapshot.elements) l = (.ok (), t))
    (hload : (t.load (.ofElements snapshot.elements)).1 = some l) :
    Restores t.store text snapshot l := by
  intro e container now he
  have hwf := Snapshot.wellFormed_of_read hread
  have hresult : (e.render container text true now).1 = .ok () :=
    render_of_read hread (.inl rfl) now
  obtain ⟨snapshot', hread', haccepts⟩ := accepts_of_render hresult
  cases hread.symm.trans hread'
  generalize (e.render container text true now).2 = e' at haccepts
  cases haccepts with
  | @first drawing restored store hfirst =>
    refine ⟨hresult, startDiagram snapshot drawing restored, ?_, fun id p hid hp => ?_⟩
    · simp
    · have hloaded := LayoutStore.load_congr (store_prepareFirst hsave he container)
        (.ofElements snapshot.elements)
      exact Drawing.position?_first hwf (congrArg Prod.fst hfirst) (hloaded.trans hload) hid hp

end Again

/-! ## Durability -/

variable {store : LayoutStore σ} {prefs : Prefs} {host : Host} {now : Int} {log : Log}

/-- A drag of a node moves this node only. If it is saved, and what is saved is finite and can
be read, then it is loaded under the fingerprint of the snapshot that the diagram was started
with, and the text of that snapshot, rendered first by any explorer on the store, puts the
nodes where they were saved. If there is no such node, or the store refuses, then the store is
as it was and the user is told so. -/
theorem drag_durable [KeepingStore σ] (h : Run (initial store prefs host now) log e)
    (hd : e.diagrams[container]? = some d) (id : String) (p : Position) :
    ∃ text s, log.lastStarted? container = some text ∧ Snapshot.read text = .ok s ∧
      let e' := e.moveNode container id p
      let surface := d.drawing.surface.dragged id p
      let fp := Fingerprint.ofElements s.elements
      (IsNodeOf d.drawing.surface.elements id →
        e'.diagrams[container]? = some { d with drawing := { d.drawing with surface } } ∧
        ((e.store.save fp surface.nodePositions).1 = .ok () →
          SavedLayout.IsFinite surface.nodePositions →
          (∃ blob, BlobStore.load e'.store.store fp.layoutKey = .ok blob) →
            (e'.store.load fp).1 = some surface.nodePositions ∧
              Restores e'.store.store text s surface.nodePositions) ∧
        ∀ cause, (e.store.save fp surface.nodePositions).1 = .error cause →
          (BlobStore.RefusesCleanly σ → e'.store = e.store) ∧ e'.TellsNotSaved container) ∧
      (¬ IsNodeOf d.drawing.surface.elements id →
        e'.store = e.store ∧ e'.TellsNotSaved container) := by
  obtain ⟨text, s, htext, hread, hfingerprint⟩ := exists_started_of_run h hd
  obtain ⟨_, -, hwf, hshows⟩ := exists_shows_of_run h hd
  have hnodup := (hshows.drawing.wellFormed hwf).nodup
  refine ⟨text, s, htext, hread, ?_⟩
  intro e' surface fp
  have hfp : d.drawing.fingerprint = fp := hfingerprint
  constructor
  · intro hnode
    cases hsave : e.store.save fp surface.nodePositions with
    | mk result t =>
      have hmove := Drawing.moveNode_of_isNodeOf hnodup hnode (hfp ▸ hsave)
      cases result with
      | ok _ =>
        have he' : e' = e.withDrawing container d { d.drawing with surface } t :=
          moveNode_of_ok hd hmove
        have hdiagram : e'.diagrams[container]?
            = some { d with drawing := { d.drawing with surface } } := by
          rw [he', withDrawing, Dict.getElem?_insert_self]
        refine ⟨hdiagram, fun _ hfinite hreadable => ?_, nofun⟩
        rw [he'] at hreadable ⊢
        obtain ⟨blob, hblob⟩ := hreadable
        have hload := congrArg Prod.fst (LayoutStore.load_of_save hfinite hsave hblob)
        exact ⟨hload, restores_of_save hread hsave hload⟩
      | error cause =>
        obtain ⟨hdiagrams, hstore, htells⟩ := moveNode_of_error hd hmove
        refine ⟨?_, nofun, fun _ _ => ⟨fun hrefuses => ?_, htells⟩⟩
        · rw [hdiagrams, Dict.getElem?_insert_self]
        · exact hstore.trans (LayoutStore.eq_of_refused hrefuses hsave)
  · intro hnode
    obtain ⟨cause, hmove⟩ := Drawing.moveNode_of_not_isNodeOf hnode p e.store
    exact (moveNode_of_error hd hmove).2

/-- A drag to a place that is finite, and the same drag while the store refuses to save. -/
theorem drag_durable_of_finite_drag :
    let text := "[[[\"a\",\"state-node\"]],[true,[]]]"
    let commands := [.render "c" text true none]
    let start : Explorer (UnreliableStore MemoryStore) := initial ⟨⟨{}, []⟩, false⟩ {} {} 0
    let e := start.run commands
    let e' := e.moveNode "c" "a" ⟨3, 4⟩
    let refusing : Explorer (UnreliableStore MemoryStore) :=
      { e with store := { e.store with store := ⟨{}, [.save]⟩ } }
    (e'.store.load ⟨"4a12e846"⟩).1 = some (Dict.ofPairs [("a", ⟨3, 4⟩)]) ∧
      (∀ (other : Explorer (UnreliableStore MemoryStore)) (c : String) (t : Int),
        other.store.store = e'.store.store → ∃ d, (other.render c text true t).2.diagrams[c]? = some d ∧
          d.drawing.surface.position? "a" = some ⟨3, 4⟩) ∧
      (refusing.moveNode "c" "a" ⟨3, 4⟩).store = refusing.store ∧
      (refusing.moveNode "c" "a" ⟨3, 4⟩).TellsNotSaved "c" := by
  intro text commands start e e' refusing
  have hrun : Run start _ e := run_transcript start commands
  have hrun' : Run start _ refusing := .outside _ e.host hrun
  have hshown : (e.diagrams["c"]?.any fun d =>
      (d.drawing.surface.elements.any fun a => a.isNode && a.id = "a") &&
      (d.drawing.surface.dragged "a" ⟨3, 4⟩).nodePositions = Dict.ofPairs [("a", ⟨3, 4⟩)]) = true := by
    decide +kernel
  obtain ⟨d, hd, hshown⟩ := (Option.any_eq_true _ _).1 hshown
  rw [Bool.and_eq_true, List.any_eq_true, decide_eq_true_iff] at hshown
  obtain ⟨⟨a, ha, hnode⟩, hpositions⟩ := hshown
  rw [Bool.and_eq_true, decide_eq_true_iff] at hnode
  have hfinite : SavedLayout.IsFinite (Dict.ofPairs [("a", ⟨3, 4⟩)]) := by
    intro id p hp
    have hmem := Dict.mem_of_getElem?_ofPairs hp
    rw [List.mem_singleton, Prod.mk.injEq] at hmem
    rw [hmem.2]
    exact ⟨by decide, by decide⟩
  obtain ⟨s, hread, hfp, hids⟩ : ∃ s, Snapshot.read text = .ok s ∧
      Fingerprint.ofElements s.elements = ⟨"4a12e846"⟩ ∧
      ∃ a ∈ s.elements, a.isNode = true ∧ a.id = "a" := Snapshot.exists_read_of_any (by decide +kernel)
  have hstarted : (start.transcript commands).lastStarted? "c" = some text := by decide +kernel
  obtain ⟨text', s', htext, hread', hdrag, -⟩ := drag_durable hrun hd "a" ⟨3, 4⟩
  cases hstarted.symm.trans htext
  cases hread.symm.trans hread'
  obtain ⟨-, hsaved, -⟩ := hdrag ⟨a, ha, hnode⟩
  rw [hpositions, hfp] at hsaved
  obtain ⟨hload, hagain⟩ := hsaved (by decide +kernel) hfinite
    ⟨SavedLayout.toBlob (Dict.ofPairs [("a", ⟨3, 4⟩)]), by decide +kernel⟩
  refine ⟨hload, fun other c t hother => ?_, ?_⟩
  · obtain ⟨-, d', hd', hplaced⟩ := hagain other c t hother
    exact ⟨d', hd', hplaced "a" ⟨3, 4⟩ hids (by decide)⟩
  · obtain ⟨_, _, -, -, hdrag', -⟩ := drag_durable hrun' hd "a" ⟨3, 4⟩
    obtain ⟨-, -, hrefused⟩ := hdrag' ⟨a, ha, hnode⟩
    obtain ⟨hkept, htells⟩ := hrefused (.store (UnreliableStore.failure .save)) rfl
    exact ⟨hkept (UnreliableStore.refusesCleanly MemoryStore.refusesCleanly), htells⟩

end Explorer

end Statescope
