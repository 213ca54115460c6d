-- SUMMARY: The model is told to take exactly the steps that gestures took, and these were enabled.
import Statescope.Proofs.Explorer.Consistency
import Statescope.Proofs.Explorer.Schedule
import Statescope.Proofs.Clock.Ticks
import Statescope.Proofs.Graph.Transition
import Statescope.Proofs.Session.Taps

/-!
# Driving the model

A gesture finds its transition in the index of a diagram or among the buttons of its
panel. Both are made from one snapshot, so that whatever is sent was enabled in it, and
what a tap takes has a button as well.
-/

namespace Statescope

/-! ## Finding transitions -/

/-- There is a button for each enabled transition. -/
theorem PanelView.buttonFor?_isSome_iff {data : PanelData} {trace : Trace} {t : Transition} :
    ((build data trace).buttonFor? t).isSome = true ↔ t ∈ data.enabled.map (·.transition) := by
  rw [buttonFor?, List.find?_isSome]
  constructor
  · rintro ⟨b, hb, ht⟩
    obtain ⟨e, he, rfl⟩ := List.mem_map.1 hb
    exact List.mem_map.2 ⟨e, he, of_decide_eq_true ht⟩
  · intro h
    obtain ⟨e, he, ht⟩ := List.mem_map.1 h
    exact ⟨button e, List.mem_map.2 ⟨e, he, rfl⟩, decide_eq_true ht⟩

/-! ## What is sent -/

namespace Log

/-- The last snapshot accepted before allows the call: it enables the transition that the
payload spells, or it allows to undo. -/
def Allows (before : Log) : String × EngineCall → Prop
  | (container, .take payload) => ∃ s t, before.lastAccepted? container = some s ∧
    t ∈ s.panel.enabled.map (·.transition) ∧ payload = t.payload ∧
    Transition.decoder.readText? payload = some t
  | (container, .undo) => ∃ s, before.lastAccepted? container = some s ∧ s.panel.canUndo = true
  | (_, .advance _) => True

end Log

namespace Explorer

/-! ## Gestures -/

section Gestures

variable {e : Explorer σ} {container id : String} {t : Transition}

theorem tap_eq (h : (e.tap container id).1 = some t) :
    ∃ d, e.diagrams[container]? = some d ∧ d.drawing.resolveTap? id = some t ∧
      (e.tap container id).2 = e.fire container t := by
  unfold tap at h ⊢
  split at h
  · rename_i t' ht
    cases h
    rw [Option.bind_eq_bind, Option.bind_eq_some_iff] at ht
    obtain ⟨d, hd, ht⟩ := ht
    exact ⟨d, hd, ht, rfl⟩
  · cases h

theorem exists_of_click (h : (e.click container t).1 = true) :
    ∃ d, e.diagrams[container]? = some d ∧ (d.panel.buttonFor? t).isSome = true := by
  unfold click at h
  split at h
  · rename_i hbutton
    rw [Option.any_eq_true] at hbutton
    exact hbutton
  · cases h

theorem exists_of_undo (h : (e.undo container).1 = true) :
    ∃ d, e.diagrams[container]? = some d ∧ d.panel.undoEnabled = true := by
  unfold undo at h
  split at h
  · rename_i henabled
    rw [Option.any_eq_true] at henabled
    exact henabled
  · cases h

/-- What is enabled in the snapshot on display can be taken by its button. -/
theorem click_of_mem {d : Diagram} {s : Snapshot} (hd : e.diagrams[container]? = some d)
    (hshows : d.Shows s) (ht : t ∈ s.panel.enabled.map (·.transition)) :
    e.click container t = (true, e.fire container t) := by
  have hbutton : (d.panel.buttonFor? t).isSome = true := by
    rw [hshows.panel, PanelView.buttonFor?_isSome_iff]
    exact ht
  rw [click, hd, Option.any_some, hbutton, if_pos rfl]

end Gestures

/-! ## Calls -/

variable [BlobStore σ] {e : Explorer σ}

/-- The calls other than those of timers. -/
def untimed (calls : List (String × EngineCall)) : List (String × EngineCall) :=
  calls.filter (!·.2.isAdvance)

theorem untimed_append (calls calls' : List (String × EngineCall)) :
    untimed (calls ++ calls') = untimed calls ++ untimed calls' :=
  List.filter_append calls calls'

/-- Time passing makes no steps. -/
theorem untimed_passTime (s : Schedule) (stop : Int) :
    untimed (s.passTime stop).calls = untimed s.calls := by
  have hnone : untimed (s.timers.run s.now stop).1 = [] := by
    apply List.filter_eq_nil_iff.2
    intro call hcall
    rcases Timers.isAdvance_of_mem_tick hcall with h | h
    · cases h
    · simp [h]
  rw [Schedule.passTime, untimed_append, hnone, List.append_nil]

theorem untimed_of_schedules {c : Command} {reply : Reply} {s : Schedule}
    (h : Schedules e c reply s) :
    untimed s.calls = untimed e.calls ++ (Log.sent? (c, reply)).toList := by
  cases h with
  | idle h =>
    rw [sent?_eq_none_of_isIdle h]
    exact (List.append_nil _).symm
  | sent container call h =>
    rw [h]
    refine (untimed_append _ _).trans (congrArg _ ?_)
    simp [untimed, Log.isAdvance_of_sent h]
  | start seconds hlive hidle => exact untimed_append _ _
  | restart seconds hlive hrunning => exact (List.append_nil _).symm
  | stop seconds hlive => exact (List.append_nil _).symm
  | absent enabled seconds habsent => exact (List.append_nil _).symm
  | dispose container => exact (List.append_nil _).symm
  | first container text now =>
    rw [untimed_passTime]
    refine (untimed_passTime e.schedule _).trans ?_
    exact (List.append_nil _).symm
  | advance millis =>
    rw [untimed_passTime]
    exact (List.append_nil _).symm

/-! ## Runs -/

variable {store : LayoutStore σ} {prefs : Prefs} {host : Host} {now : Int} {log : Log}
  {container id : String} {t : Transition}

/-- What a gesture sends, the last accepted snapshot allows. -/
theorem allows_of_sent (h : Run (initial store prefs host now) log e) {c : Command}
    {call : String × EngineCall} (hsent : Log.sent? (c, (e.perform c).1) = some call) :
    log.Allows call := by
  cases c with
  | tap container id =>
    simp only [perform] at hsent
    cases ht : (e.tap container id).1 with
    | none =>
      rw [ht] at hsent
      cases hsent
    | some t =>
      rw [ht] at hsent
      cases hsent
      obtain ⟨d, hd, hresolve, -⟩ := tap_eq ht
      obtain ⟨s, hs, -, hshows⟩ := exists_shows_of_run h hd
      have hindex := (Drawing.exists_of_resolveTap? hresolve).1
      rw [hshows.drawing.index] at hindex
      exact ⟨s, t, hs, (ActionIndex.mem_enabled hindex).1, rfl, Transition.readText?_payload t⟩
  | click container t =>
    simp only [perform] at hsent
    cases hclick : (e.click container t).1 with
    | false =>
      rw [hclick] at hsent
      cases hsent
    | true =>
      rw [hclick] at hsent
      cases hsent
      obtain ⟨d, hd, hbutton⟩ := exists_of_click hclick
      obtain ⟨s, hs, -, hshows⟩ := exists_shows_of_run h hd
      rw [hshows.panel, PanelView.buttonFor?_isSome_iff] at hbutton
      exact ⟨s, t, hs, hbutton, rfl, Transition.readText?_payload t⟩
  | undo container =>
    simp only [perform] at hsent
    cases hundo : (e.undo container).1 with
    | false =>
      rw [hundo] at hsent
      cases hsent
    | true =>
      rw [hundo] at hsent
      cases hsent
      obtain ⟨d, hd, henabled⟩ := exists_of_undo hundo
      obtain ⟨s, hs, -, hshows⟩ := exists_shows_of_run h hd
      rw [hshows.panel] at henabled
      exact ⟨s, hs, henabled⟩
  | _ => cases hsent

theorem untimed_of_run (h : Run (initial store prefs host now) log e) :
    untimed e.calls = log.filterMap Log.sent? := by
  induction h with
  | nil => rfl
  | outside store host _ ih => exact ih
  | @perform log e c _ ih =>
    rw [List.filterMap_append, ← ih]
    exact untimed_of_schedules (schedules_perform e c)

theorem allows_of_run (h : Run (initial store prefs host now) log e) {before after : Log}
    {event : Command × Reply} {call : String × EngineCall}
    (hlog : log = before ++ event :: after) (hsent : Log.sent? event = some call) :
    before.Allows call := by
  induction h generalizing after with
  | nil => simp at hlog
  | outside store host _ ih => exact ih hlog
  | @perform log e c h ih =>
    -- The event is the last one, or it lies within the run before.
    rcases List.eq_nil_or_concat after with rfl | ⟨after, last, rfl⟩
    · obtain ⟨rfl, hevent⟩ := List.append_inj' hlog rfl
      cases hevent
      exact allows_of_sent h hsent
    · rw [List.concat_eq_append, ← List.cons_append, ← List.append_assoc] at hlog
      exact ih (List.append_inj' hlog rfl).1

/-- What a tap takes, its button takes as well. -/
theorem click_of_tap (h : Run (initial store prefs host now) log e)
    (ht : (e.tap container id).1 = some t) :
    e.click container t = (true, (e.tap container id).2) := by
  obtain ⟨d, hd, hresolve, htap⟩ := tap_eq ht
  obtain ⟨s, -, -, hshows⟩ := exists_shows_of_run h hd
  -- Index and panel are made from the same snapshot.
  have hindex := (Drawing.exists_of_resolveTap? hresolve).1
  rw [hshows.drawing.index] at hindex
  rw [htap]
  exact click_of_mem hd hshows (ActionIndex.mem_enabled hindex).1

theorem element_of_tap (h : Run (initial store prefs host now) log e)
    (ht : (e.tap container id).1 = some t) :
    ∃ d a, e.diagrams[container]? = some d ∧ a ∈ d.drawing.surface.elements ∧ a.id = id ∧
      a.kind = .action ∧ a.hasClass enabledClass = true ∧ id = t.actionId ∧ t.label ≠ "" := by
  obtain ⟨d, hd, hresolve, -⟩ := tap_eq ht
  obtain ⟨s, -, -, hshows⟩ := exists_shows_of_run h hd
  obtain ⟨hindex, a, ha, hid, hkind, hclass⟩ := Drawing.exists_of_resolveTap? hresolve
  rw [hshows.drawing.index] at hindex
  obtain ⟨-, haction, hlabel⟩ := ActionIndex.mem_enabled hindex
  exact ⟨d, a, hd, ha, hid, hkind, hclass, haction, hlabel⟩

/-- Other than by timers, the model is driven by accepted gestures alone: one call each,
in their order, allowed by the snapshot that was on display. A tap that takes a transition
is on the action node of it, and its button would do the same. -/
theorem driven_by_gestures (h : Run (initial store prefs host now) log e) :
    e.calls.filter (!·.2.isAdvance) = log.filterMap Log.sent? ∧
    (∀ before event after call, log = before ++ event :: after →
      Log.sent? event = some call → Log.Allows before call) ∧
    ∀ container id t, (e.tap container id).1 = some t →
      (∃ d a, e.diagrams[container]? = some d ∧ a ∈ d.drawing.surface.elements ∧ a.id = id ∧
        a.kind = .action ∧ a.hasClass enabledClass = true ∧ id = t.actionId ∧ t.label ≠ "") ∧
      e.click container t = (true, (e.tap container id).2) := by
  refine ⟨untimed_of_run h, fun _ _ _ _ => allows_of_run h, fun container id t ht => ?_⟩
  exact ⟨element_of_tap h ht, click_of_tap h ht⟩

/-- A tap on an enabled action, and an undo that is not enabled. -/
theorem driven_by_gestures_of_tap :
    let e := initial (σ := MemoryStore) ⟨{}, false⟩ {} {} 0
    let text := "[[[\"a\",\"state-node\"],[\"b\",\"state-node\"]," ++
      "[\"event_a_b_x\",\"event-node\",\"x\",[\"enabled\"]]]," ++
      "[false,[\x7b\"from\":\"a\",\"to\":\"b\",\"lbl\":\"x\"\x7d]]]"
    let commands := [.render "c" text true none, .tap "c" "event_a_b_x", .undo "c"]
    (e.run commands).calls = [("c", .take (Transition.payload ⟨"a", "b", "x", false⟩))] ∧
    (e.run commands).calls.filter (!·.2.isAdvance)
      = (e.transcript commands).filterMap Log.sent? ∧
    (∀ before event after call, e.transcript commands = before ++ event :: after →
      Log.sent? event = some call → Log.Allows before call) ∧
    ∀ container id t, ((e.run commands).tap container id).1 = some t →
      (∃ d a, (e.run commands).diagrams[container]? = some d ∧ a ∈ d.drawing.surface.elements ∧
        a.id = id ∧ a.kind = .action ∧ a.hasClass enabledClass = true ∧ id = t.actionId ∧
        t.label ≠ "") ∧
      (e.run commands).click container t = (true, ((e.run commands).tap container id).2) := by
  intro e text commands
  exact ⟨by decide +kernel, driven_by_gestures (run_transcript e commands)⟩

end Explorer

end Statescope
