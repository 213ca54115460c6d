-- SUMMARY: Nodes keep their places over later snapshots for as long as nobody arranges their diagram.
import Statescope.Proofs.Explorer.Flashes
import Statescope.Proofs.Explorer.Isolation
import Statescope.Proofs.Session.Inherited

/-!
# Places over updates

Between two gestures that arrange a diagram only its accepted snapshots say where its nodes
are. Ticks, refused snapshots, gestures that drive the model and all that happens in other
containers leave them there (`places_survive_updates`).
-/

namespace Statescope

/-! ## Events -/

namespace Log

/-- Whether an event takes the places of a diagram out of the hands of its snapshots: it
arranges the diagram, disposes of it or starts another one. -/
def rearranges (container : String) : Command × Reply → Bool
  | (.moveNode c .., _) | (.selectLayout c _, _) | (.importLayouts c _, _) | (.dispose c, _) =>
    c = container
  | (.render c _ true _, .rendered (.ok ())) => c = container
  | _ => false

theorem container?_of_accepted {c : Command} {reply : Reply} {container : String} {s : Snapshot}
    (h : accepted? container (c, reply) = some s) : c.container? = some container := by
  unfold accepted? at h
  split at h
  · rename_i heq
    cases heq
    rw [Option.ite_none_right_eq_some] at h
    rw [Command.container?, h.1]
  · cases h

theorem wellFormed_of_accepted {event : Command × Reply} {container : String} {s : Snapshot}
    (h : accepted? container event = some s) : Element.WellFormed s.elements := by
  unfold accepted? at h
  split at h
  · rename_i text isFirst now
    rw [Option.ite_none_right_eq_some] at h
    cases hread : Snapshot.read text with
    | error cause => simp [hread, Except.toOption] at h
    | ok s' =>
      rw [hread, Except.toOption, Option.some_inj] at h
      exact h.2 ▸ Snapshot.wellFormed_of_read hread
  · cases h

end Log

/-! ## Diagrams -/

namespace Diagram

variable {d d' d'' : Diagram} {ss ss' : List Snapshot}

/-- `d'` is where these snapshots leave `d`, without any layout or fit of the view. -/
structure Continues (ss : List Snapshot) (d d' : Diagram) : Prop where
  position?_eq : d'.drawing.surface.position? = Snapshot.inheritAll ss d.drawing.surface.position?
  layouts_eq : d'.drawing.surface.layouts = d.drawing.surface.layouts
  fits_eq : d'.drawing.surface.fits = d.drawing.surface.fits
  layout_eq : d'.drawing.layout = d.drawing.layout

theorem Continues.of_drawing_eq (h : d'.drawing = d.drawing) : Continues [] d d' := by
  constructor <;> rw [h]
  rfl

theorem Continues.trans (h : Continues ss d d') (h' : Continues ss' d' d'') :
    Continues (ss ++ ss') d d'' where
  position?_eq := by rw [h'.position?_eq, h.position?_eq, Snapshot.inheritAll_append]
  layouts_eq := h'.layouts_eq.trans h.layouts_eq
  fits_eq := h'.fits_eq.trans h.fits_eq
  layout_eq := h'.layout_eq.trans h.layout_eq

theorem continues_unflashed (d : Diagram) : Continues [] d d.unflashed :=
  ⟨d.drawing.position?_unflashed, rfl, rfl, rfl⟩

theorem continues_updated (d : Diagram) (s : Snapshot) (now : Int) :
    Continues [s] d (Explorer.continueDiagram d s (d.drawing.updated s now)) :=
  ⟨d.drawing.position?_updated s now, rfl, rfl, rfl⟩

end Diagram

namespace Explorer

open Element

variable [BlobStore σ] {e e' : Explorer σ} {store : LayoutStore σ} {prefs : Prefs}
  {host : Host} {start : Int} {log log' : Log} {container : String} {d : Diagram}

/-! ## Runs -/

/-- What happens elsewhere or to all diagrams leaves the places of a diagram alone. -/
theorem exists_continues_of_ne (h : Run (initial store prefs host start) log e)
    (hd : e.diagrams[container]? = some d) {c : Command} (hto : c.container? ≠ some container) :
    ∃ d' : Diagram, (e.perform c).2.diagrams[container]? = some d' ∧ d.Continues [] d' := by
  cases hb : c.container? with
  | some b =>
    have hne : container ≠ b := fun heq => hto (heq ▸ hb)
    exact ⟨d, ((e.onlyIn_perform hb).diagram container hne).trans hd, .of_drawing_eq rfl⟩
  | none =>
    cases c with
    | publishOracle | abandonOracle | advance => exact ⟨d, hd, .of_drawing_eq rfl⟩
    | tick now =>
      refine ⟨_, (getElem?_tick h _ container).trans (congrArg _ hd), ?_⟩
      dsimp only
      split
      · exact d.continues_unflashed
      · exact .of_drawing_eq rfl
    | _ => cases hb

/-- A render leaves a diagram where it was, or where the snapshot leaves it. -/
theorem exists_continues_of_render (hd : e.diagrams[container]? = some d) {text : String}
    {isFirst : Bool} {now : Option Int} (hquiet : Log.rearranges container
      (.render container text isFirst now, (e.perform (.render container text isFirst now)).1) = false) :
    ∃ d' : Diagram, (e.perform (.render container text isFirst now)).2.diagrams[container]? = some d' ∧
      d.Continues (Log.accepted? container (.render container text isFirst now,
        (e.perform (.render container text isFirst now)).1)).toList d' := by
  simp only [perform] at hquiet ⊢
  cases hresult : (e.render container text isFirst (now.getD e.now)).1 with
  | error cause =>
    obtain ⟨_, diagrams, hrender, hdiagrams⟩ := render_atomic hresult
    refine ⟨{ d with lastError := some (cause.message e.host.wording) }, ?_, .of_drawing_eq rfl⟩
    rw [hrender, hdiagrams, if_pos rfl, hd, Option.map_some]
  | ok _ =>
    cases isFirst with
    | true => simp [Log.rearranges, hresult] at hquiet
    | false =>
      obtain ⟨s, d₀, hread, hd₀, hafter⟩ := exists_updated_of_render hresult
      cases hd.symm.trans hd₀
      refine ⟨_, hafter, ?_⟩
      rw [Log.accepted?_render container false now hread]
      exact d.continues_updated s _

/-- A diagram that is not arranged is left where an accepted snapshot leaves it, if the event
brings one, and else where it was. -/
theorem exists_continues (h : Run (initial store prefs host start) log e)
    (hd : e.diagrams[container]? = some d) (c : Command)
    (hquiet : Log.rearranges container (c, (e.perform c).1) = false) :
    ∃ d' : Diagram, (e.perform c).2.diagrams[container]? = some d' ∧
      d.Continues (Log.accepted? container (c, (e.perform c).1)).toList d' := by
  by_cases hto : c.container? = some container
  · have hdriven (hdrives : c.drives = true) : (e.perform c).2.diagrams[container]? = some d := by
      obtain ⟨_, _, hperform⟩ := e.perform_of_drives hdrives
      rw [hperform, hd]
    cases c with
    | publishOracle | abandonOracle | tick | advance => cases hto
    | moveNode | selectLayout | importLayouts | dispose =>
      cases hto
      simp [Log.rearranges] at hquiet
    | attachOracle => exact ⟨d, hd, .of_drawing_eq rfl⟩
    | tap | click | undo | setAutoAdvance => exact ⟨d, hdriven rfl, .of_drawing_eq rfl⟩
    | exportLayouts b =>
      obtain ⟨_, _, hexport⟩ := e.exportLayouts_eq b
      refine ⟨d, ?_, .of_drawing_eq rfl⟩
      rw [perform, hexport, hd]
    | render b text isFirst now =>
      cases hto
      exact exists_continues_of_render hd hquiet
  · obtain ⟨d', hd', hrests⟩ := exists_continues_of_ne h hd hto
    have hnone : Log.accepted? container (c, (e.perform c).1) = none := by
      rw [Option.eq_none_iff_forall_ne_some]
      exact fun s hs => hto (Log.container?_of_accepted hs)
    exact ⟨d', hd', hnone ▸ hrests⟩

theorem exists_continues_of_run (h : Run (initial store prefs host start) log e)
    (hd : e.diagrams[container]? = some d) (hrun : Run e log' e')
    (hquiet : ∀ event ∈ log', Log.rearranges container event = false) :
    ∃ d' : Diagram, e'.diagrams[container]? = some d' ∧
      d.Continues (log'.filterMap (Log.accepted? container)) d' := by
  induction hrun with
  | nil => exact ⟨d, hd, .of_drawing_eq rfl⟩
  | outside store host _ ih => exact ih hquiet
  | @perform log' e' c hrun ih =>
    rw [List.forall_mem_append] at hquiet
    obtain ⟨d', hd', hbefore⟩ := ih hquiet.1
    obtain ⟨d'', hd'', hafter⟩ :=
      exists_continues (h.trans hrun) hd' c (hquiet.2 _ List.mem_cons_self)
    refine ⟨d'', hd'', ?_⟩
    rw [List.filterMap_append, List.filterMap_cons]
    exact hbefore.trans hafter

/-! ## Survival -/

/-- Accepted snapshots that follow each other, with whatever else happens between them but an
arrangement of the diagram, leave a node that is in all of them where the last one that says
so has put it, or else where it was. An id that was gone and is a node from then on is where
it has been put since, if anywhere. No layout is run and the view is not fitted again. -/
theorem places_survive_updates (h : Run (initial store prefs host start) log e)
    (hd : e.diagrams[container]? = some d) (hrun : Run e log' e')
    (hquiet : ∀ event ∈ log', Log.rearranges container event = false) :
    let snapshots := log'.filterMap (Log.accepted? container)
    ∃ d' : Diagram, e'.diagrams[container]? = some d' ∧
      (∀ id, (∀ s ∈ snapshots, IsNodeOf s.elements id) → d'.drawing.surface.position? id
        = (Snapshot.lastGiven? snapshots id).or (d.drawing.surface.position? id)) ∧
      (∀ id before after, snapshots = before ++ after →
        id ∉ ((before.getLast?.map (·.elements)).getD d.drawing.surface.elements).map (·.id) →
        (∀ s ∈ after, IsNodeOf s.elements id) →
          d'.drawing.surface.position? id = Snapshot.lastGiven? after id) ∧
      d'.drawing.surface.layouts = d.drawing.surface.layouts ∧
      d'.drawing.surface.fits = d.drawing.surface.fits ∧
      d'.drawing.layout = d.drawing.layout := by
  intro snapshots
  have hwf : ∀ s ∈ snapshots, WellFormed s.elements := by
    intro s hs
    obtain ⟨event, -, hevent⟩ := List.mem_filterMap.1 hs
    exact Log.wellFormed_of_accepted hevent
  obtain ⟨d', hd', hcontinues⟩ := exists_continues_of_run h hd hrun hquiet
  refine ⟨d', hd', fun id hnode => ?_, fun id before after hsplit habsent hnode => ?_,
    hcontinues.layouts_eq, hcontinues.fits_eq, hcontinues.layout_eq⟩
  · rw [hcontinues.position?_eq]
    exact Snapshot.inheritAll_of_isNodeOf hwf hnode _
  · have hgone : Snapshot.inheritAll before d.drawing.surface.position? id = none :=
      Snapshot.inheritAll_of_absent habsent Surface.position?_eq_none
    have hwf' : ∀ s ∈ after, WellFormed s.elements := by
      intro s hs
      exact hwf s (hsplit ▸ List.mem_append_right before hs)
    have hsnapshots : log'.filterMap (Log.accepted? container) = before ++ after := hsplit
    rw [hcontinues.position?_eq, hsnapshots, Snapshot.inheritAll_append,
      Snapshot.inheritAll_of_isNodeOf hwf' hnode, hgone, Option.or_none]

/-- Three snapshots with a refused one, a tick and a tap between them. The first node is put
elsewhere by the second snapshot, the second one is put nowhere and stays where the layout had
it, and the third one is put somewhere by the first snapshot but gone in the second. -/
theorem places_survive_updates_of_three_snapshots :
    let e := (initial (σ := MemoryStore) ⟨{}, false⟩ {} {} 0).run
      [.render "c" "[[[\"a\",\"state-node\"],[\"b\",\"state-node\"]],[true,[]]]" true none]
    let commands : List Command :=
      [.render "c" ("[[[\"a\",\"state-node\"],[\"b\",\"state-node\"]," ++
          "[\"x\",\"state-node\",\"\",[],null,null,[5,6]]],[true,[]]]") false none,
        .render "c" "" false none, .tick none,
        .render "c" ("[[[\"b\",\"state-node\"],[\"a\",\"state-node\",\"\",[],null,null,[7,8]]]," ++
          "[true,[]]]") false none, .tap "c" "a",
        .render "c" ("[[[\"x\",\"state-node\"],[\"a\",\"state-node\"]," ++
          "[\"b\",\"state-node\"]],[true,[]]]") false none]
    ∃ d d' : Diagram, e.diagrams["c"]? = some d ∧ (e.run commands).diagrams["c"]? = some d' ∧
      d.drawing.surface.position? "b" = some ⟨132, 0⟩ ∧
      d'.drawing.surface.position? "a" = some ⟨7, 8⟩ ∧
      d'.drawing.surface.position? "b" = some ⟨132, 0⟩ ∧
      d'.drawing.surface.position? "x" = none ∧
      d'.drawing.surface.layouts = [.dagre] ∧ d'.drawing.surface.fits = 1 := by
  intro e commands
  have hshown : (e.diagrams["c"]?.any fun d => d.drawing.surface.position? "b" = some ⟨132, 0⟩ ∧
      d.drawing.surface.layouts = [.dagre] ∧ d.drawing.surface.fits = 1) = true := by decide +kernel
  obtain ⟨d, hd, hbefore⟩ := (Option.any_eq_true _ _).1 hshown
  rw [decide_eq_true_iff] at hbefore
  obtain ⟨hb, hlayouts, hfits⟩ := hbefore
  have hquiet : ∀ event ∈ e.transcript commands, Log.rearranges "c" event = false := by
    decide +kernel
  obtain ⟨d', hd', hstays, hreturns, hlayouts', hfits', -⟩ :=
    places_survive_updates (run_transcript _ _) hd (run_transcript e commands) hquiet
  let snapshots := (e.transcript commands).filterMap (Log.accepted? "c")
  obtain ⟨⟨ha, hgivenA⟩, ⟨hb', hgivenB⟩, ⟨hx, hgivenX⟩, hgone⟩ :
      ((∀ s ∈ snapshots, ∃ a ∈ s.elements, a.isNode = true ∧ a.id = "a") ∧
        Snapshot.lastGiven? snapshots "a" = some ⟨7, 8⟩) ∧
      ((∀ s ∈ snapshots, ∃ a ∈ s.elements, a.isNode = true ∧ a.id = "b") ∧
        Snapshot.lastGiven? snapshots "b" = none) ∧
      ((∀ s ∈ snapshots.drop 2, ∃ a ∈ s.elements, a.isNode = true ∧ a.id = "x") ∧
        Snapshot.lastGiven? (snapshots.drop 2) "x" = none) ∧
      ((snapshots.take 2).getLast?.any fun s => "x" ∉ s.elements.map (·.id)) = true := by
    decide +kernel
  obtain ⟨s, hs, hgone⟩ := (Option.any_eq_true _ _).1 hgone
  have habsent : "x" ∉ (((snapshots.take 2).getLast?.map (·.elements)).getD
      d.drawing.surface.elements).map (·.id) := by
    rw [hs]
    exact of_decide_eq_true hgone
  refine ⟨d, d', hd, hd', hb, ?_, ?_, ?_, hlayouts'.trans hlayouts, hfits'.trans hfits⟩
  · rw [hstays "a" ha, hgivenA, Option.some_or]
  · rw [hstays "b" hb', hgivenB, Option.none_or, hb]
  · rw [hreturns "x" _ _ (List.take_append_drop 2 snapshots).symm habsent hx, hgivenX]

end Explorer

end Statescope
