-- SUMMARY: What each command does to the diagrams: one accepts a snapshot, one disposes, the others take small steps.
import Statescope.Proofs.Explorer.Gestures
import Statescope.Proofs.Explorer.Render

/-!
# Changes of diagrams

A diagram is put into its container by an accepted snapshot and taken out by its
disposal. All that happens to it in between are steps that keep what it shows.
`changes_perform` says which command does which.
-/

namespace Statescope

/-! ## One diagram -/

namespace Diagram

/-- What is on display, panel included, is this snapshot. -/
structure Shows (s : Snapshot) (d : Diagram) : Prop where
  drawing : d.drawing.Shows s
  panel : d.panel = .build s.panel d.trace

/-- What can happen to a diagram between two accepted snapshots. -/
inductive Step (d : Diagram) : Diagram → Prop where
  | refl : Step d d
  | rearranged {drawing : Drawing} (h : d.drawing.Rearranged drawing) : Step d { d with drawing }
  | expired (now : Int) : Step d { d with drawing := (d.drawing.expireFlash now).2 }
  | refused (message : String) : Step d { d with lastError := some message }

/-- What a snapshot makes of a diagram when it is accepted: the first one starts it anew,
a later one continues it. A diagram goes by the fingerprint of its first snapshot. -/
inductive Takes (s : Snapshot) : Bool → Option Diagram → Diagram → Prop where
  | first {old : Option Diagram} {drawing : Drawing} (restored : Bool) (hshows : drawing.Shows s)
    (hfingerprint : drawing.fingerprint = .ofElements s.elements) :
    Takes s true old (Explorer.startDiagram s drawing restored)
  | next {d : Diagram} {drawing : Drawing} (hshows : drawing.Shows s)
    (hfingerprint : drawing.fingerprint = d.drawing.fingerprint) :
    Takes s false (some d) (Explorer.continueDiagram d s drawing)

theorem Takes.shows {s : Snapshot} {isFirst : Bool} {old : Option Diagram} {d : Diagram}
    (h : Takes s isFirst old d) : Shows s d := by
  cases h with
  | first _ hshows _ => exact ⟨hshows, rfl⟩
  | next hshows _ => exact ⟨hshows, rfl⟩

/-- Steps reach no further than the surface with its layout and highlight, and the last error. -/
theorem Step.exists_eq {d d' : Diagram} (h : Step d d') : ∃ surface layout flash lastError,
    d' = { d with drawing := { d.drawing with surface, layout, flash }, lastError } := by
  cases h with
  | refl | refused _ => exact ⟨_, _, _, _, rfl⟩
  | rearranged hdrawing =>
    obtain ⟨_, _, rfl, -⟩ := hdrawing
    exact ⟨_, _, _, _, rfl⟩
  | expired now =>
    simp only [Drawing.expireFlash]
    split
    · split <;> exact ⟨_, _, _, _, rfl⟩
    · exact ⟨_, _, _, _, rfl⟩

theorem Step.trace_eq {d d' : Diagram} (h : Step d d') : d'.trace = d.trace := by
  obtain ⟨_, _, _, _, rfl⟩ := h.exists_eq
  rfl

theorem Step.panel_eq {d d' : Diagram} (h : Step d d') : d'.panel = d.panel := by
  obtain ⟨_, _, _, _, rfl⟩ := h.exists_eq
  rfl

theorem Step.fingerprint_eq {d d' : Diagram} (h : Step d d') :
    d'.drawing.fingerprint = d.drawing.fingerprint := by
  obtain ⟨_, _, _, _, rfl⟩ := h.exists_eq
  rfl

theorem Step.options_eq {d d' : Diagram} (h : Step d d') :
    d'.drawing.options = d.drawing.options := by
  obtain ⟨_, _, _, _, rfl⟩ := h.exists_eq
  rfl

theorem Shows.step {s : Snapshot} {d d' : Diagram} (h : Shows s d)
    (hwf : Element.WellFormed s.elements) (hstep : Step d d') : Shows s d' := by
  cases hstep with
  | refl => exact h
  | rearranged hdrawing => exact ⟨h.drawing.rearranged hdrawing, h.panel⟩
  | expired now => exact ⟨Drawing.shows_expireFlash h.drawing hwf now, h.panel⟩
  | refused message => exact ⟨h.drawing, h.panel⟩

/-- A container stays as it is, but for a step of its diagram if it has one. -/
abbrev Steps : Option Diagram → Option Diagram → Prop := Option.Rel Step

theorem Steps.refl (d? : Option Diagram) : Steps d? d? := by
  cases d? with
  | none => exact .none
  | some d => exact .some .refl

theorem Steps.map {f : Diagram → Diagram} (hf : ∀ d, Step d (f d)) (d? : Option Diagram) :
    Steps d? (d?.map f) := by
  cases d? with
  | none => exact .none
  | some d => exact .some (hf d)

theorem Steps.isSome_eq {d? d?' : Option Diagram} (h : Steps d? d?') : d?'.isSome = d?.isSome := by
  cases h <;> rfl

theorem Steps.exists_of_some {d? : Option Diagram} {d' : Diagram} (h : Steps d? (some d')) :
    ∃ d, d? = some d ∧ Step d d' := by
  cases h with
  | some hstep => exact ⟨_, rfl, hstep⟩

end Diagram

namespace Explorer

variable {e e' : Explorer σ}

/-! ## Steps of all diagrams -/

/-- No diagram has come or gone, and each has taken at most a step. -/
def Steps (e e' : Explorer σ) : Prop :=
  ∀ c : String, Diagram.Steps e.diagrams[c]? e'.diagrams[c]?

theorem Steps.of_eq (h : e'.diagrams = e.diagrams) : e.Steps e' := by
  intro c
  rw [h]
  exact Diagram.Steps.refl _

theorem Steps.of_insert {container : String} {d d' : Diagram}
    (hd : e.diagrams[container]? = some d) (hstep : d.Step d')
    (h : e'.diagrams = e.diagrams.insert container d') : e.Steps e' := by
  intro c
  rw [h]
  by_cases hc : container = c
  · subst hc
    rw [hd, Dict.getElem?_insert_self]
    exact .some hstep
  · rw [Dict.getElem?_insert_of_ne _ hc]
    exact Diagram.Steps.refl _

theorem Steps.contains_eq (h : e.Steps e') (c : String) :
    e'.diagrams.contains c = e.diagrams.contains c := by
  rw [← Std.ExtTreeMap.isSome_getElem?_eq_contains, ← Std.ExtTreeMap.isSome_getElem?_eq_contains]
  exact (h c).isSome_eq

theorem steps_tick (e : Explorer σ) (now : Int) : e.Steps (e.tick now) := by
  intro c
  rw [tick, Std.ExtTreeMap.getElem?_map]
  exact Diagram.Steps.map (fun d => .expired now) _

theorem steps_reject (e : Explorer σ) (container : String) (cause : ExplorerError) (now : Int) :
    e.Steps (e.reject container cause now) := by
  intro c
  simp only [reject, notify, Dict.getElem?_modify]
  split
  · exact Diagram.Steps.map (fun d => .refused (cause.message e.host.wording)) _
  · exact Diagram.Steps.refl _

theorem steps_selectLayout (e : Explorer σ) (container name : String) :
    e.Steps (e.selectLayout container name).2 := by
  unfold selectLayout
  cases hd : e.diagrams[container]? with
  | none => exact Steps.of_eq rfl
  | some d =>
    cases LayoutKind.ofName? name with
    | none => exact Steps.of_eq rfl
    | some kind =>
      exact Steps.of_insert hd (.rearranged (Drawing.rearranged_selectLayout d.drawing kind)) rfl

section Arranging

variable [BlobStore σ]

theorem steps_moveNode (e : Explorer σ) (container id : String) (p : Position) :
    e.Steps (e.moveNode container id p) := by
  unfold moveNode
  cases hd : e.diagrams[container]? with
  | none => exact Steps.of_eq rfl
  | some d =>
    refine Steps.of_insert hd (.rearranged (Drawing.rearranged_moveNode d.drawing id p e.store)) ?_
    simp only
    split <;> rfl

theorem steps_importLayouts (e : Explorer σ) (container text : String) :
    e.Steps (e.importLayouts container text).2 := by
  unfold importLayouts
  cases hd : e.diagrams[container]? with
  | none => exact Steps.of_eq rfl
  | some d =>
    cases e.store.importText text with
    | mk result store =>
      cases result with
      | error cause => exact Steps.of_eq rfl
      | ok fps =>
        by_cases hfps : d.drawing.fingerprint ∈ fps
        · simp only [hfps, if_true]
          refine Steps.of_insert hd (.rearranged (Drawing.rearranged_restore d.drawing store)) ?_
          split <;> rfl
        · simp only [hfps, if_false]
          refine Steps.of_insert hd (.rearranged (Drawing.Rearranged.refl d.drawing)) ?_
          split <;> rfl

end Arranging

/-! ## Commands -/

/-- What a command with this reply makes of the diagrams. -/
inductive Changes (e : Explorer σ) : Command → Reply → Explorer σ → Prop where
  | steps {c : Command} {reply : Reply} {e' : Explorer σ}
    (hrefused : ∀ container, Log.accepted? container (c, reply) = none) (h : e.Steps e') :
    Changes e c reply e'
  | accept {container text : String} (isFirst : Bool) (now : Option Int) {s : Snapshot}
    {d : Diagram} {e' : Explorer σ} (hread : Snapshot.read text = .ok s)
    (hd : Diagram.Takes s isFirst e.diagrams[container]? d)
    (h : e'.diagrams = e.diagrams.insert container d) :
    Changes e (.render container text isFirst now) (.rendered (.ok ())) e'
  | dispose {container : String} {e' : Explorer σ}
    (h : e'.diagrams = e.diagrams.erase container) : Changes e (.dispose container) (.flag true) e'

/-- A diagram after a command is what a snapshot has made of it that the command has
brought into its container, or else it is at most a step away from what it was. -/
theorem Changes.takes_or_step {c : Command} {reply : Reply} (h : Changes e c reply e')
    {container : String} {d' : Diagram} (hd' : e'.diagrams[container]? = some d') :
    (∃ text isFirst now s, c = .render container text isFirst now ∧ reply = .rendered (.ok ()) ∧
      Snapshot.read text = .ok s ∧ Diagram.Takes s isFirst e.diagrams[container]? d') ∨
    (Log.accepted? container (c, reply) = none ∧
      ∃ d : Diagram, e.diagrams[container]? = some d ∧ d.Step d') := by
  cases h with
  | steps hrefused h => exact .inr ⟨hrefused container, (hd' ▸ h container).exists_of_some⟩
  | @accept container' text isFirst now s d _ hread hd h =>
    rw [h] at hd'
    by_cases hc : container' = container
    · subst hc
      rw [Dict.getElem?_insert_self, Option.some.injEq] at hd'
      exact .inl ⟨text, isFirst, now, s, rfl, rfl, hread, hd' ▸ hd⟩
    · rw [Dict.getElem?_insert_of_ne _ hc] at hd'
      exact .inr ⟨by simp [Log.accepted?, hc], d', hd', .refl⟩
  | @dispose container' _ h =>
    rw [h, Std.ExtTreeMap.getElem?_erase] at hd'
    split at hd'
    · cases hd'
    · exact .inr ⟨rfl, d', hd', .refl⟩

/-- A diagram whose container takes no snapshot and is not disposed of takes at most a step. -/
theorem Changes.exists_step {c : Command} {reply : Reply} (h : Changes e c reply e')
    {container : String} {d : Diagram} (hd : e.diagrams[container]? = some d)
    (hrefused : Log.accepted? container (c, reply) = none) (hkept : c ≠ .dispose container) :
    ∃ d' : Diagram, e'.diagrams[container]? = some d' ∧ d.Step d' := by
  cases h with
  | steps _ h =>
    have hsteps := h container
    rw [hd] at hsteps
    generalize e'.diagrams[container]? = d'? at hsteps
    cases hsteps with
    | some hstep => exact ⟨_, rfl, hstep⟩
  | @accept container' text isFirst now s d' _ hread _ h =>
    rw [h]
    by_cases hc : container' = container
    · subst hc
      rw [Log.accepted?_render container' isFirst now hread] at hrefused
      cases hrefused
    · exact ⟨d, (Dict.getElem?_insert_of_ne _ hc _).trans hd, .refl⟩
  | @dispose container' _ h =>
    rw [h]
    have hc : container' ≠ container := fun hc => hkept (hc ▸ rfl)
    exact ⟨d, (Dict.getElem?_erase_of_ne _ hc).trans hd, .refl⟩

variable [BlobStore σ]

@[simp] theorem diagrams_afterFirst (e : Explorer σ) (container : String) (d : Diagram)
    (store : LayoutStore σ) :
    (e.afterFirst container d store).diagrams = e.diagrams.insert container d := by
  obtain ⟨_, _, hprepare⟩ := prepareFirst_eq e container
  simp only [afterFirst, passTime, replaceDiagram, hprepare]

@[simp] theorem pending_afterFirst (e : Explorer σ) (container : String) (d : Diagram)
    (store : LayoutStore σ) :
    (e.afterFirst container d store).pending = e.pending.erase container := by
  obtain ⟨_, _, hprepare⟩ := prepareFirst_eq e container
  simp only [afterFirst, passTime, replaceDiagram, hprepare]

/-- No oracle is waited for that was not attached. -/
theorem Accepts.pending_eq_none {container : String} {s : Snapshot} {now : Int} {isFirst : Bool}
    (h : Accepts e container s now isFirst e') (hpending : e.pending[container]? = none) :
    e'.pending[container]? = none := by
  cases h with
  | first _ => simp
  | next _ _ => exact hpending

theorem Accepts.exists_insert {container : String} {s : Snapshot} {now : Int} {isFirst : Bool}
    (h : Accepts e container s now isFirst e') (hwf : Element.WellFormed s.elements) :
    ∃ d : Diagram, e'.diagrams = e.diagrams.insert container d ∧
      Diagram.Takes s isFirst e.diagrams[container]? d := by
  cases h with
  | @first drawing restored store h =>
    have hfirst := congrArg Prod.fst h
    exact ⟨startDiagram s drawing restored, diagrams_afterFirst e container _ store,
      .first restored (Drawing.shows_first hwf hfirst) (Drawing.fingerprint_first hfirst)⟩
  | @next d drawing hd h =>
    refine ⟨continueDiagram d s drawing, rfl, ?_⟩
    rw [hd]
    cases (Drawing.update_eq hwf _ _).symm.trans h
    exact .next (d.drawing.shows_updated s now) rfl

/-- A snapshot that can be read becomes the diagram of its container, if there is one for it
to continue or it is to start one. -/
theorem exists_takes_of_read (e : Explorer σ) (container : String) {text : String} {s : Snapshot}
    (hread : Snapshot.read text = .ok s) {isFirst : Bool}
    (hlive : isFirst = true ∨ e.diagrams[container]?.isSome = true) (now : Option Int) :
    ∃ d : Diagram,
      (e.perform (.render container text isFirst now)).2.diagrams[container]? = some d ∧
      Diagram.Takes s isFirst e.diagrams[container]? d := by
  obtain ⟨s', hread', haccepts⟩ :=
    accepts_of_render (render_of_read hread hlive (now.getD e.now))
  cases hread.symm.trans hread'
  obtain ⟨d, hdiagrams, htakes⟩ := haccepts.exists_insert (Snapshot.wellFormed_of_read hread)
  refine ⟨d, ?_, htakes⟩
  simp only [perform, hdiagrams, Dict.getElem?_insert_self]

theorem changes_render (e : Explorer σ) (container text : String) (isFirst : Bool)
    (now : Option Int) : Changes e (.render container text isFirst now)
      (.rendered (e.render container text isFirst (now.getD e.now)).1)
      (e.render container text isFirst (now.getD e.now)).2 := by
  cases hresult : (e.render container text isFirst (now.getD e.now)).1 with
  | error cause =>
    rw [reject_of_render hresult]
    exact .steps (fun _ => rfl) (steps_reject e container cause _)
  | ok _ =>
    obtain ⟨s, hread, haccepts⟩ := accepts_of_render hresult
    obtain ⟨d, hdiagrams, htakes⟩ := haccepts.exists_insert (Snapshot.wellFormed_of_read hread)
    exact .accept isFirst now hread htakes hdiagrams

/-- What a command does to the diagrams. -/
theorem changes_perform (e : Explorer σ) (c : Command) :
    Changes e c (e.perform c).1 (e.perform c).2 := by
  have hdriven (hdrives : c.drives = true) : e.Steps (e.perform c).2 := by
    obtain ⟨_, _, hperform⟩ := e.perform_of_drives hdrives
    exact Steps.of_eq (by rw [hperform])
  cases c with
  | render container text isFirst now => exact changes_render e container text isFirst now
  | attachOracle container channel => exact .steps (fun _ => rfl) (Steps.of_eq rfl)
  | publishOracle ticket oracle => exact .steps (fun _ => rfl) (Steps.of_eq rfl)
  | abandonOracle ticket => exact .steps (fun _ => rfl) (Steps.of_eq rfl)
  | tap | click | undo | setAutoAdvance => exact .steps (fun _ => rfl) (hdriven rfl)
  | moveNode container id p => exact .steps (fun _ => rfl) (steps_moveNode e container id p)
  | selectLayout container name => exact .steps (fun _ => rfl) (steps_selectLayout e container name)
  | exportLayouts container =>
    obtain ⟨_, _, hexport⟩ := e.exportLayouts_eq container
    rw [perform, hexport]
    exact .steps (fun _ => rfl) (Steps.of_eq rfl)
  | importLayouts container text =>
    exact .steps (fun _ => rfl) (steps_importLayouts e container text)
  | tick now => exact .steps (fun _ => rfl) (steps_tick e _)
  | advance millis => exact .steps (fun _ => rfl) (Steps.of_eq rfl)
  | dispose container =>
    simp only [perform, Explorer.dispose]
    split
    · exact .dispose rfl
    · exact .steps (fun _ => rfl) (Steps.of_eq rfl)

/-! ## Settings -/

theorem Accepts.settings_eq {container : String} {s : Snapshot} {now : Int} {isFirst : Bool}
    (h : Accepts e container s now isFirst e') : e'.prefs = e.prefs ∧ e'.host = e.host := by
  cases h with
  | first _ =>
    obtain ⟨_, _, hprepare⟩ := prepareFirst_eq e container
    simp only [afterFirst, passTime, replaceDiagram, hprepare, and_self]
  | next _ _ => exact ⟨rfl, rfl⟩

/-- No command changes the preferences or the host. -/
theorem settings_perform (e : Explorer σ) (c : Command) :
    (e.perform c).2.prefs = e.prefs ∧ (e.perform c).2.host = e.host := by
  by_cases hdrives : c.drives = true
  · obtain ⟨_, _, h⟩ := e.perform_of_drives hdrives
    exact h ▸ ⟨rfl, rfl⟩
  by_cases harranges : c.arranges = true
  · obtain ⟨_, _, _, h⟩ := e.perform_of_arranges harranges
    exact h ▸ ⟨rfl, rfl⟩
  cases c with
  | tap | click | undo | setAutoAdvance => exact absurd rfl hdrives
  | attachOracle | publishOracle | abandonOracle | tick | advance => exact ⟨rfl, rfl⟩
  | render container text isFirst now =>
    cases hresult : (e.render container text isFirst (now.getD e.now)).1 with
    | error cause =>
      rw [perform, reject_of_render hresult]
      exact ⟨rfl, rfl⟩
    | ok _ =>
      obtain ⟨s, -, haccepts⟩ := accepts_of_render hresult
      exact haccepts.settings_eq
  | moveNode | selectLayout | exportLayouts | importLayouts => exact absurd rfl harranges
  | dispose container =>
    obtain ⟨_, _, _, h⟩ := e.dispose_eq container
    rw [perform, h]
    exact ⟨rfl, rfl⟩

theorem settings_run (e : Explorer σ) (cs : List Command) :
    (e.run cs).prefs = e.prefs ∧ (e.run cs).host = e.host := by
  induction cs generalizing e with
  | nil => exact ⟨rfl, rfl⟩
  | cons c cs ih =>
    obtain ⟨hprefs, hhost⟩ := settings_perform e c
    exact ⟨(ih _).1.trans hprefs, (ih _).2.trans hhost⟩

end Explorer

end Statescope
