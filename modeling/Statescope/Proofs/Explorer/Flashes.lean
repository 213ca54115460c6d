-- SUMMARY: Highlights last from half a second to a second, end with the first tick after that, and ticks add up to the latest one.
import Statescope.Proofs.Dict
import Statescope.Proofs.Explorer.Consistency
import Statescope.Proofs.Explorer.Gestures
import Statescope.Proofs.Session.Notice

/-!
# Highlights over runs

Every accepted snapshot that continues a diagram says anew what is highlighted in it and
until when. Ticks end the highlights whose time is over and touch nothing else of a diagram.
They go by their clock reading alone, so that of several ticks only the latest counts.
-/

namespace Statescope

/-- The diagram when its highlight is over. -/
def Diagram.unflashed (d : Diagram) : Diagram := { d with drawing := d.drawing.unflashed }

namespace Explorer

/-! ## Preferences -/

section Prefs

variable [BlobStore σ] {e e' : Explorer σ}

/-- A diagram is timed by the preferences from its first snapshot on. -/
theorem Accepts.options_eq {container : String} {s : Snapshot} {now : Int} {isFirst : Bool}
    (h : Accepts e container s now isFirst e') (hwf : Element.WellFormed s.elements) {d : Diagram}
    (hd : e'.diagrams[container]? = some d) :
    d.drawing.options = .ofPrefs e.prefs ∨
      ∃ d₀ : Diagram, e.diagrams[container]? = some d₀ ∧ d.drawing.options = d₀.drawing.options := by
  cases h with
  | first hfirst =>
    rw [diagrams_afterFirst, Dict.getElem?_insert_self] at hd
    cases hd
    exact .inl (Drawing.options_first (congrArg Prod.fst hfirst))
  | next hd₀ hupdate =>
    rw [Dict.getElem?_insert_self] at hd
    cases hd
    cases (Drawing.update_eq hwf _ _).symm.trans hupdate
    exact .inr ⟨_, hd₀, rfl⟩

theorem options_of_run {store : LayoutStore σ} {prefs : Prefs} {host : Host} {start : Int}
    {log : Log} (h : Run (initial store prefs host start) log e) :
    e.prefs = prefs ∧ ∀ (container : String) (d : Diagram), e.diagrams[container]? = some d →
      d.drawing.options = .ofPrefs prefs := by
  induction h with
  | nil => exact ⟨rfl, fun container d hd => by simp [initial] at hd⟩
  | outside store host _ ih => exact ih
  | @perform log e c _ ih =>
    obtain ⟨hprefs, hoptions⟩ := ih
    refine ⟨(settings_perform e c).1.trans hprefs, fun container d hd => ?_⟩
    rcases (changes_perform e c).takes_or_step hd with
      ⟨text, isFirst, now, s, rfl, hreply, -, -⟩ | ⟨-, d₀, hd₀, hstep⟩
    · obtain ⟨s, hread, haccepts⟩ := accepts_of_render (Reply.rendered.inj hreply)
      rcases haccepts.options_eq (Snapshot.wellFormed_of_read hread) hd with hfirst | ⟨d₀, hd₀, hnext⟩
      · rw [hfirst, hprefs]
      · rw [hnext, hoptions container d₀ hd₀]
    · rw [hstep.options_eq, hoptions container d₀ hd₀]

end Prefs

/-! ## Ticks -/

/-- Of two ticks the later one counts. -/
@[simp] theorem tick_tick (e : Explorer σ) (t t' : Int) : (e.tick t).tick t' = e.tick (max t t') := by
  have hdiagrams : ((e.tick t).tick t').diagrams = (e.tick (max t t')).diagrams := by
    refine Std.ExtTreeMap.ext_getElem? fun c => ?_
    simp only [tick, Std.ExtTreeMap.getElem?_map, Option.map_map]
    congr 1
    funext d
    simp only [Function.comp_apply, Drawing.expireFlash_expireFlash]
  have hnotices := e.notices.retainVisible_retainVisible t t'
  simp only [tick] at hdiagrams ⊢
  rw [hdiagrams, hnotices]

/-- Of several ticks the latest one counts. -/
theorem foldl_tick (e : Explorer σ) (t : Int) (ts : List Int) :
    ts.foldl tick (e.tick t) = e.tick (ts.foldl max t) := by
  induction ts generalizing t with
  | nil => rfl
  | cons t' ts ih => rw [List.foldl_cons, List.foldl_cons, tick_tick, ih]

/-- After a tick no highlight is left whose time is over. -/
theorem lt_of_nextDeadline?_tick (e : Explorer σ) {t deadline : Int}
    (h : (e.tick t).nextDeadline? = some deadline) : t < deadline := by
  have hmem := List.min?_mem h
  simp only [tick, Dict.values_map] at hmem
  obtain ⟨_, hd, hdeadline⟩ := List.mem_filterMap.1 hmem
  obtain ⟨d, -, rfl⟩ := List.mem_map.1 hd
  exact Drawing.lt_of_deadline?_expireFlash hdeadline

section Lifetime

variable [BlobStore σ] {e : Explorer σ} {store : LayoutStore σ} {prefs : Prefs} {host : Host}
  {start : Int} {log : Log}

/-- A tick ends the highlights whose time is over, and does nothing else to a diagram. -/
theorem getElem?_tick (h : Run (initial store prefs host start) log e) (t : Int) (c : String) :
    (e.tick t).diagrams[c]? = e.diagrams[c]?.map fun d =>
      if d.drawing.deadline?.any (· ≤ t) then d.unflashed else d := by
  rw [tick, Std.ExtTreeMap.getElem?_map]
  cases hd : e.diagrams[c]? with
  | none => rfl
  | some d =>
    obtain ⟨s, -, hwf, hshows⟩ := exists_shows_of_run h hd
    have hnodup := (hshows.drawing.wellFormed hwf).nodup
    rw [Option.map_some, Option.map_some, Drawing.expireFlash_eq hnodup]
    split <;> rfl

/-- What an accepted snapshot makes of the diagram that it continues. -/
theorem exists_updated_of_render {container text : String} {now : Int}
    (h : (e.render container text false now).1 = .ok ()) :
    ∃ s d, Snapshot.read text = .ok s ∧ e.diagrams[container]? = some d ∧
      (e.render container text false now).2.diagrams[container]?
        = some (continueDiagram d s (d.drawing.updated s now)) := by
  obtain ⟨s, hread, haccepts⟩ := accepts_of_render h
  generalize (e.render container text false now).2 = e' at haccepts
  cases haccepts with
  | @next d _ hd hupdate =>
    cases (Drawing.update_eq (Snapshot.wellFormed_of_read hread) d.drawing now).symm.trans hupdate
    exact ⟨s, d, hread, hd, Dict.getElem?_insert_self _ _ _⟩

/-- A snapshot that continues a diagram says anew what is highlighted, from its clock reading
on for half a second to a second. The mark is on these elements then, and else only where the
snapshot itself has it. A tick takes it off them in those diagrams whose time is over, and
does nothing else but let go of notices; no deadline is left that it has reached. Of several
ticks only the latest counts, so that every schedule that ends with the same one comes to
the same. -/
theorem highlight_lifetime (h : Run (initial store prefs host start) log e) :
    (millis 500 ≤ prefs.flashDuration ∧ prefs.flashDuration ≤ millis 1000) ∧
    (∀ container text now, (e.render container text false now).1 = .ok () →
      ∃ s d, Snapshot.read text = .ok s ∧
        (e.render container text false now).2.diagrams[container]? = some d ∧
        d.drawing.flashed = s.flashIds ∧
        d.drawing.deadline? = (if s.flashIds = [] then none else some (now + prefs.flashDuration)) ∧
        d.drawing.surface.elements.map (fun a => (a.id, a.classes))
          = s.elements.map fun a => (a.id, (a.marked s.flashIds).classes)) ∧
    (∀ t : Int,
      (∃ diagrams, e.tick t = { e with diagrams, notices := e.notices.retainVisible t } ∧
        ∀ c : String, diagrams[c]? = e.diagrams[c]?.map fun d =>
          if d.drawing.deadline?.any (· ≤ t) then d.unflashed else d) ∧
      ∀ deadline, (e.tick t).nextDeadline? = some deadline → t < deadline) ∧
    (∀ t t' : Int, t ≤ t' → (e.tick t).tick t' = e.tick t') ∧
    ∀ (t : Int) (ts : List Int), ts.foldl tick (e.tick t) = e.tick (ts.foldl max t) := by
  refine ⟨prefs.flashDuration_bounds, fun container text now hresult => ?_, fun t => ⟨?_, ?_⟩,
    fun t t' ht => ?_, e.foldl_tick⟩
  · obtain ⟨s, d, hread, hd, hafter⟩ := exists_updated_of_render hresult
    have hoptions := (options_of_run h).2 container d hd
    refine ⟨s, _, hread, hafter, ?_, ?_, ?_⟩
    · exact d.drawing.flashed_updated s now
    · have hdeadline := d.drawing.deadline?_updated s now
      rw [hoptions] at hdeadline
      exact hdeadline
    · exact d.drawing.classes_updated s now
  · exact ⟨_, rfl, getElem?_tick h t⟩
  · intro deadline
    exact e.lt_of_nextDeadline?_tick
  · rw [tick_tick, max_eq_right ht]

end Lifetime

/-- The edge between two states is highlighted from 100 on, for half a second at least whatever
the preferences say: it is so a nanosecond before that is over, and not any more then. -/
theorem highlight_lifetime_of_step :
    let e := initial (σ := MemoryStore) ⟨{}, false⟩ { flashMillis := 0 } {} 0
    let text := "[[[\"a\",\"state-node\"],[\"b\",\"state-node\"]," ++
      "[\"direct_a_b_\",\"connector-edge\",\"\",[],\"a\",\"b\"]],[true,[]],[\"a\",\"b\"]]"
    let shown := (e.perform (.render "c" text true none)).2
    let after := (shown.render "c" text false 100).2
    let deadline : Int := 100 + millis 500
    (shown.render "c" text false 100).1 = .ok () ∧
    ∃ d : Diagram, after.diagrams["c"]? = some d ∧ d.drawing.flashed = ["direct_a_b_"] ∧
      d.drawing.deadline? = some deadline ∧
      (after.tick (deadline - 1)).diagrams["c"]? = some d ∧
      (after.tick deadline).diagrams["c"]? = some d.unflashed ∧
      (after.tick (deadline - 1)).tick deadline = after.tick deadline := by
  intro e text shown after deadline
  obtain ⟨s, hread, hids⟩ : ∃ s, Snapshot.read text = .ok s ∧ s.flashIds = ["direct_a_b_"] :=
    Snapshot.exists_read_of_any (by decide +kernel)
  obtain ⟨d₀, hd₀, -⟩ := exists_takes_of_read e "c" hread (.inl rfl) none
  have hlive : shown.diagrams["c"]?.isSome = true := Option.isSome_iff_exists.2 ⟨d₀, hd₀⟩
  have hshown : Run e _ shown := Run.nil.perform (.render "c" text true none)
  obtain ⟨log, hafter⟩ := hshown.exists_render "c" text false 100
  have hresult : (shown.render "c" text false 100).1 = .ok () := render_of_read hread (.inr hlive) 100
  have hupdate := (highlight_lifetime hshown).2.1
  obtain ⟨s', d, hread', hd, hflashed, hdeadline, -⟩ := hupdate "c" text 100 hresult
  cases hread.symm.trans hread'
  rw [hids] at hflashed
  have hend : d.drawing.deadline? = some deadline := by
    rw [hdeadline, hids]
    rfl
  obtain ⟨-, -, hticks, hlatest, -⟩ := highlight_lifetime hafter
  have htick (t : Int) : (after.tick t).diagrams["c"]?
      = some (if d.drawing.deadline?.any (· ≤ t) then d.unflashed else d) := by
    obtain ⟨⟨diagrams, htick, hdiagrams⟩, -⟩ := hticks t
    rw [htick, hdiagrams, hd, Option.map_some]
  refine ⟨hresult, d, hd, hflashed, hend, ?_, ?_, hlatest (deadline - 1) deadline (by omega)⟩
  · simp [htick, hend]
  · simp [htick, hend]

end Explorer

end Statescope
