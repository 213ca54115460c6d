-- SUMMARY: How a render goes: refused before anything has happened, or accepted and on display.
import Statescope.Proofs.Explorer.Run
import Statescope.Proofs.Graph.WellFormed
import Statescope.Proofs.Session.Drawing
import Statescope.Store.Unreliable

/-!
# Renders

A snapshot that can be read is drawn, so that every refusal comes before anything
has happened to the explorer. Whether one is refused is decided by its text
(`decided_by_text`).
-/

namespace Statescope.Explorer

/-! ## First snapshots -/

section First

variable [BlobStore σ]

theorem seedLayouts_eq (e : Explorer σ) : ∃ store, e.seedLayouts = { e with store } := by
  unfold seedLayouts
  split
  · exact ⟨_, rfl⟩
  · exact ⟨e.store, rfl⟩

/-- Getting ready touches nothing that a diagram shows. The channel is taken away, and time
passes. -/
theorem prepareFirst_eq (e : Explorer σ) (container : String) :
    ∃ store surfaces, (e.prepareFirst container).2
      = { e with store, pending := e.pending.erase container, surfaces }.passTime
          (lastTickTime (e.prepareFirst container).1 e.now) := by
  obtain ⟨store, hstore⟩ := seedLayouts_eq e
  refine ⟨store, e.surfaces ++ [.created container], ?_⟩
  unfold prepareFirst
  rw [hstore]
  rfl

/-- The state after an accepted first snapshot: the diagram is put into its container
between the two parts of the wait. -/
def afterFirst (e : Explorer σ) (container : String) (d : Diagram) (store : LayoutStore σ) :
    Explorer σ :=
  ({ (e.prepareFirst container).2 with store }.replaceDiagram container d).passTime
    (e.prepareFirst container).1.time

theorem renderFirst_of_error {e : Explorer σ} {container text : String} {cause : SnapshotError}
    (h : Snapshot.read text = .error cause) :
    e.renderFirst container text = (.error (.snapshot cause), e) := by
  unfold renderFirst
  rw [h]

@[simp] theorem prefs_prepareFirst (e : Explorer σ) (container : String) :
    (e.prepareFirst container).2.prefs = e.prefs := by
  obtain ⟨_, _, hprepare⟩ := prepareFirst_eq e container
  rw [hprepare]
  rfl

theorem renderFirst_of_ok (e : Explorer σ) (container : String) {text : String} {s : Snapshot}
    (h : Snapshot.read text = .ok s) :
    ∃ drawing restored store,
      Drawing.first {} s (e.prepareFirst container).1.received (.ofPrefs e.prefs)
        (e.prepareFirst container).2.store = (.ok (restored, drawing), store) ∧
      e.renderFirst container text
        = (.ok (), e.afterFirst container (startDiagram s drawing restored) store) := by
  have hprefs := prefs_prepareFirst e container
  unfold renderFirst afterFirst
  generalize e.prepareFirst container = prepared at hprefs ⊢
  obtain ⟨wait, e'⟩ := prepared
  rw [← hprefs]
  -- What has been read is well formed, so that nothing can fail from here on.
  obtain ⟨restored, drawing, hfirst⟩ :
      ∃ restored drawing, (Drawing.first {} s wait.received (.ofPrefs e'.prefs) e'.store).1
        = .ok (restored, drawing) := Drawing.exists_first (Snapshot.wellFormed_of_read h)
  refine ⟨drawing, restored, _, Prod.ext hfirst rfl, ?_⟩
  simp only [h, hfirst]

end First

/-! ## Later snapshots -/

theorem renderNext_of_error {e : Explorer σ} {container text : String} {now : Int}
    {cause : ExplorerError} (h : (e.renderNext container text now).1 = .error cause) :
    (e.renderNext container text now).2 = e := by
  unfold renderNext at h ⊢
  cases hd : e.diagrams[container]? with
  | none => rfl
  | some d =>
    cases hread : Snapshot.read text with
    | error cause => rfl
    | ok s =>
      -- The surface does not refuse what has been read.
      have hupdate := Drawing.update_eq (Snapshot.wellFormed_of_read hread) d.drawing now
      simp only [hd, hread, hupdate] at h
      cases h

theorem renderNext_of_ok {e : Explorer σ} {container text : String} {now : Int}
    (h : (e.renderNext container text now).1 = .ok ()) :
    ∃ s d drawing, Snapshot.read text = .ok s ∧ e.diagrams[container]? = some d ∧
      d.drawing.update s now = .ok drawing ∧ (e.renderNext container text now).2
        = { e with diagrams := e.diagrams.insert container (continueDiagram d s drawing) } := by
  unfold renderNext at h ⊢
  cases hd : e.diagrams[container]? with
  | none =>
    simp only [hd] at h
    cases h
  | some d =>
    cases hread : Snapshot.read text with
    | error cause =>
      simp only [hd, hread] at h
      cases h
    | ok s =>
      have hupdate := Drawing.update_eq (Snapshot.wellFormed_of_read hread) d.drawing now
      refine ⟨s, d, _, rfl, rfl, hupdate, ?_⟩
      simp only [hupdate]

theorem renderNext_of_read {e : Explorer σ} {container text : String} {s : Snapshot}
    (hlive : e.diagrams[container]?.isSome = true) (h : Snapshot.read text = .ok s) (now : Int) :
    (e.renderNext container text now).1 = .ok () := by
  obtain ⟨d, hd⟩ := Option.isSome_iff_exists.1 hlive
  have hupdate := Drawing.update_eq (Snapshot.wellFormed_of_read h) d.drawing now
  simp only [renderNext, hd, h, hupdate]

/-! ## Either kind -/

section Render

variable [BlobStore σ] {e : Explorer σ} {container text : String} {isFirst : Bool} {now : Int}

/-- What an accepted snapshot makes of an explorer. -/
inductive Accepts (e : Explorer σ) (container : String) (s : Snapshot) (now : Int) :
    Bool → Explorer σ → Prop where
  | first {drawing : Drawing} {restored : Bool} {store : LayoutStore σ}
    (h : Drawing.first {} s (e.prepareFirst container).1.received (.ofPrefs e.prefs)
      (e.prepareFirst container).2.store = (.ok (restored, drawing), store)) :
    Accepts e container s now true
      (e.afterFirst container (startDiagram s drawing restored) store)
  | next {d : Diagram} {drawing : Drawing} (hd : e.diagrams[container]? = some d)
    (h : d.drawing.update s now = .ok drawing) :
    Accepts e container s now false
      { e with diagrams := e.diagrams.insert container (continueDiagram d s drawing) }

theorem accepts_of_render (h : (e.render container text isFirst now).1 = .ok ()) :
    ∃ s, Snapshot.read text = .ok s ∧
      Accepts e container s now isFirst (e.render container text isFirst now).2 := by
  unfold render at h ⊢
  cases isFirst with
  | true =>
    cases hread : Snapshot.read text with
    | error cause =>
      rw [if_pos rfl, renderFirst_of_error hread] at h
      cases h
    | ok s =>
      obtain ⟨drawing, restored, store, hfirst, hrender⟩ := renderFirst_of_ok e container hread
      refine ⟨s, rfl, ?_⟩
      rw [if_pos rfl, hrender]
      exact .first hfirst
  | false =>
    simp only [Bool.false_eq_true, if_false] at h ⊢
    cases hresult : (e.renderNext container text now).1 with
    | error cause =>
      simp only [hresult] at h
      cases h
    | ok _ =>
      obtain ⟨s, d, drawing, hread, hd, hupdate, hrender⟩ := renderNext_of_ok hresult
      refine ⟨s, hread, ?_⟩
      rw [hrender]
      exact .next hd hupdate

/-- A snapshot that can be read is accepted, if there is a diagram for it to continue or it
is to start one. -/
theorem render_of_read {s : Snapshot} (h : Snapshot.read text = .ok s)
    (hlive : isFirst = true ∨ e.diagrams[container]?.isSome = true) (now : Int) :
    (e.render container text isFirst now).1 = .ok () := by
  unfold render
  cases isFirst with
  | true =>
    obtain ⟨_, _, _, -, hrender⟩ := renderFirst_of_ok e container h
    rw [if_pos rfl, hrender]
  | false =>
    have hresult := renderNext_of_read (hlive.resolve_left nofun) h now
    simp only [Bool.false_eq_true, if_false, hresult]

theorem reject_of_render {cause : ExplorerError}
    (h : (e.render container text isFirst now).1 = .error cause) :
    (e.render container text isFirst now).2 = e.reject container cause now := by
  unfold render at h ⊢
  cases isFirst with
  | true =>
    cases hread : Snapshot.read text with
    | error cause' =>
      rw [if_pos rfl, renderFirst_of_error hread] at h ⊢
      cases h
      rfl
    | ok s =>
      obtain ⟨_, _, _, -, hrender⟩ := renderFirst_of_ok e container hread
      rw [if_pos rfl, hrender] at h
      cases h
  | false =>
    simp only [Bool.false_eq_true, if_false] at h ⊢
    cases hresult : (e.renderNext container text now).1 with
    | error cause' =>
      simp only [hresult] at h ⊢
      cases h
      rw [renderNext_of_error hresult]
    | ok _ =>
      simp only [hresult] at h
      cases h

/-- A refused snapshot leaves an explorer as it was. There is only a notice, and a word on
the reason with the diagram of the container, if there is one. -/
theorem render_atomic {cause : ExplorerError}
    (h : (e.render container text isFirst now).1 = .error cause) :
    ∃ notices diagrams, (e.render container text isFirst now).2 = { e with notices, diagrams } ∧
      ∀ c, diagrams[c]? = if c = container then
          e.diagrams[c]?.map fun d => { d with lastError := some (cause.message e.host.wording) }
        else e.diagrams[c]? := by
  rw [reject_of_render h]
  exact ⟨_, _, rfl, fun c => Dict.getElem?_modify _ container c _⟩

/-- A first snapshot that is not even JSON, while a diagram and an oracle are there. -/
theorem render_atomic_of_empty_text :
    let e := (initial (σ := MemoryStore) ⟨{}, false⟩ {} {} 0).run
      [.render "c" "[[],[true,[]]]" true none, .attachOracle "c" ⟨1, .silent⟩]
    ∃ notices diagrams, (e.render "c" "" true 7).2 = { e with notices, diagrams } ∧
      ∀ c, diagrams[c]? = if c = "c" then
          e.diagrams[c]?.map fun d =>
            { d with lastError := some ((ExplorerError.snapshot (.malformed "")).message e.host.wording) }
        else e.diagrams[c]? :=
  render_atomic rfl

end Render

/-! ## Answers -/

section Answers

variable [BlobStore σ] (e : Explorer σ) (container text : String)

/-- A render says what the reading of its text says, provided that there is a diagram to
continue or none is needed. -/
theorem fst_render (isFirst : Bool) (now : Int) :
    (e.render container text isFirst now).1
      = if isFirst || e.diagrams[container]?.isSome then
          ((Snapshot.read text).mapError .snapshot).map fun _ => ()
        else .error (.noDiagram container) := by
  cases hread : Snapshot.read text with
  | ok s =>
    split
    · rename_i hlive
      rw [Bool.or_eq_true] at hlive
      exact render_of_read hread hlive now
    · rename_i hlive
      rw [Bool.or_eq_true, not_or, Bool.not_eq_true, Bool.not_eq_true, Option.isSome_eq_false_iff,
        Option.isNone_iff_eq_none] at hlive
      simp only [render, hlive.1, Bool.false_eq_true, if_false, renderNext, hlive.2]
  | error cause =>
    cases isFirst with
    | true =>
      rw [render, if_pos rfl, renderFirst_of_error hread]
      rfl
    | false =>
      simp only [render, Bool.false_eq_true, if_false, renderNext, hread]
      cases e.diagrams[container]? <;> rfl

/-- Whether a snapshot is accepted is decided by its text, and for a later one by whether
there is a diagram for it to continue. What is refused is refused for one of these reasons:
the store, the seed file, the oracle and the surface have no say, and no surface refuses
elements that pass the check of snapshots. -/
theorem decided_by_text (now : Int) :
    ((e.render container text true now).1 = .ok () ↔ ∃ s, Snapshot.read text = .ok s) ∧
    ((e.render container text false now).1 = .ok () ↔
      e.diagrams[container]?.isSome = true ∧ ∃ s, Snapshot.read text = .ok s) ∧
    (∀ isFirst cause, (e.render container text isFirst now).1 = .error cause ↔
      (cause = .noDiagram container ∧ isFirst = false ∧ e.diagrams[container]? = none) ∨
      ((isFirst = true ∨ e.diagrams[container]?.isSome = true) ∧
        ∃ reason, Snapshot.read text = .error reason ∧ cause = .snapshot reason)) ∧
    ∀ (surface : Surface) (elements : List Element), Snapshot.elementsError? elements = none →
      ∃ surface', surface.load elements = .ok surface' := by
  refine ⟨?_, ?_, fun isFirst cause => ?_, fun surface elements h => ?_⟩
  · rw [fst_render]
    cases Snapshot.read text <;> simp [Except.mapError, Except.map]
  · rw [fst_render]
    cases Snapshot.read text <;> cases e.diagrams[container]? <;> simp [Except.mapError, Except.map]
  · rw [fst_render]
    cases isFirst <;> cases Snapshot.read text <;> cases e.diagrams[container]? <;>
      simp [Except.mapError, Except.map, eq_comm]
  · exact ⟨_, surface.load_of_wellFormed (Snapshot.elementsError?_eq_none_iff_wellFormed.1 h)⟩

end Answers

/-- Every call to the store fails, the seed file cannot be read and the oracle is given up. -/
theorem decided_by_text_of_failing_store :
    let store : UnreliableStore MemoryStore := ⟨{}, [.load, .save, .remove, .keys]⟩
    let prefs : Prefs := { seedBundle := some (.ofText "seed.json") }
    let e := (initial ⟨store, false⟩ prefs {} 0).run [.attachOracle "c" ⟨1, .abandoned⟩]
    let text := "[[[\"a\",\"state-node\"],[\"e\",\"connector-edge\",\"\",[],\"a\",\"a\"]],[true,[]]]"
    (e.render "c" text true 0).1 = .ok () ∧
      (e.render "c" text false 0).1 = .error (.noDiagram "c") ∧
      ∃ surface', ({ disposed := true } : Surface).load [{ id := "a", kind := .state }]
        = .ok surface' := by
  intro store prefs e text
  obtain ⟨hfirst, -, herror, hload⟩ := decided_by_text e "c" text 0
  obtain ⟨s, hread, -⟩ : ∃ s, Snapshot.read text = .ok s ∧ True :=
    Snapshot.exists_read_of_any (by decide +kernel)
  exact ⟨hfirst.2 ⟨s, hread⟩, (herror false _).2 (.inl ⟨rfl, rfl, rfl⟩), hload _ _ (by decide +kernel)⟩

end Statescope.Explorer
