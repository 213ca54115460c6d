-- SUMMARY: A replay depends on nothing but the lines of its file that spell a snapshot, whenever they are rendered.
import Statescope.Proofs.Explorer.Alike
import Statescope.Proofs.Text.Split
import Statescope.Replay.Run

/-!
# Replays and the lines they accept

Of the lines of a file, a replay accepts those that spell a snapshot, whatever has been
rendered before. A line that it refuses leaves nothing but a notice and a word on the
reason. What the clock says matters only to the highlight of a line, which is over before
the next one. So a replay ends with the same diagram, store and bundle as one of the
accepted lines alone, at whatever times they are rendered.
-/

namespace Statescope.Replay

/-! ## Lines -/

/-- Whether a text spells a snapshot. -/
def accepts (line : String) : Bool := (Snapshot.read line).isOk

theorem accepts_eq_true_iff {line : String} :
    accepts line = true ↔ ∃ s, Snapshot.read line = .ok s := by
  unfold accepts
  cases Snapshot.read line with
  | error cause => simp [Except.isOk, Except.toBool]
  | ok s => simp [Except.isOk, Except.toBool]

theorem accepts_eq_false_iff {line : String} :
    accepts line = false ↔ ∃ cause, Snapshot.read line = .error cause := by
  unfold accepts
  cases Snapshot.read line with
  | error cause => simp [Except.isOk, Except.toBool]
  | ok s => simp [Except.isOk, Except.toBool]

/-- What is rendered of a line. -/
def trimmed (line : List Char) : String := String.ofList (Text.trim line)

/-- The lines that are accepted are those of the file that spell a snapshot when they are
trimmed. -/
theorem filter_snapshotLines (text : String) :
    ((snapshotLines text).map (·.2)).filter accepts
      = ((Text.lines text.toList).filter (accepts <| trimmed ·)).map trimmed := by
  unfold snapshotLines
  generalize Text.lines text.toList = lines
  generalize 1 = number
  induction lines generalizing number with
  | nil => rfl
  | cons line lines ih =>
    rw [List.zipIdx_cons, List.filterMap_cons]
    cases htrim : Text.trim line with
    | nil =>
      -- Blank lines are not accepted either.
      have hblank : accepts (trimmed line) = false := by rw [trimmed, htrim]; rfl
      rw [List.filter_cons_of_neg (by simp [hblank])]
      simp only [htrim]
      exact ih (number + 1)
    | cons c cs =>
      have htrimmed : String.ofList (c :: cs) = trimmed line := by rw [trimmed, htrim]
      simp only [htrim, htrimmed, List.map_cons]
      cases haccepts : accepts (trimmed line) with
      | true =>
        rw [List.filter_cons, if_pos haccepts, List.filter_cons, if_pos haccepts, List.map_cons,
          ih (number + 1)]
      | false =>
        rw [List.filter_cons, if_neg (by simp [haccepts]), List.filter_cons,
          if_neg (by simp [haccepts])]
        exact ih (number + 1)

/-! ## Replays that go on alike -/

/-- Replays that have rendered as much and go on in the same way. -/
structure Alike (r r' : Replay σ) : Prop where
  rendered : r.rendered = r'.rendered
  explorer : r.explorer.Alike r'.explorer

theorem Alike.refl (r : Replay σ) : Alike r r := ⟨rfl, .refl r.explorer⟩

theorem Alike.symm {r r' : Replay σ} (h : Alike r r') : Alike r' r :=
  ⟨h.rendered.symm, h.explorer.symm⟩

theorem Alike.trans {r r' r'' : Replay σ} (h : Alike r r') (h' : Alike r' r'') : Alike r r'' :=
  ⟨h.rendered.trans h'.rendered, h.explorer.trans h'.explorer⟩

/-- Between two lines nothing is highlighted and no oracle is waited for. As soon as
something has been rendered, there is a diagram. -/
structure Steady (r : Replay σ) : Prop where
  live : r.rendered = 0 ∨ r.diagram?.isSome = true
  pending : r.explorer.pending[container]? = none
  dark : r.explorer.IsDark

theorem steady_start [BlobStore σ] (o : Options) (place : String) (store : σ) (host : Host) :
    (start o place store host).Steady where
  live := .inl rfl
  pending := rfl
  dark c d hd := by simp [start] at hd

theorem Alike.steady {r r' : Replay σ} (h : Alike r r') (hr : r.Steady) : r'.Steady where
  live := by
    have hlive := hr.live
    rwa [diagram?, h.rendered, h.explorer.isSome_diagram] at hlive
  pending := h.explorer.pending ▸ hr.pending
  dark := h.explorer.isDark hr.dark

/-! ## Ends of highlights -/

/-- The only highlight there is ends at the next deadline. -/
theorem nextDeadline?_eq {e : Explorer σ} {c : String} {d : Diagram} (hd : e.diagrams[c]? = some d)
    (hothers : ∀ (k : String) (d' : Diagram), k ≠ c → e.diagrams[k]? = some d' → d'.drawing.flash = none) :
    e.nextDeadline? = d.drawing.deadline? := by
  have hdeadlines {t : Int} (ht : t ∈ e.diagrams.values.filterMap (·.drawing.deadline?)) :
      d.drawing.deadline? = some t := by
    obtain ⟨d', hd', hdeadline⟩ := List.mem_filterMap.1 ht
    rw [Dict.values_eq, List.mem_map] at hd'
    obtain ⟨⟨k, _⟩, hk, rfl⟩ := hd'
    rw [Std.ExtTreeMap.mem_toList_iff_getElem?_eq_some] at hk
    by_cases hkc : k = c
    · subst hkc
      cases hd.symm.trans hk
      exact hdeadline
    · rw [Drawing.deadline?, hothers k _ hkc hk] at hdeadline
      cases hdeadline
  rw [Explorer.nextDeadline?]
  cases hmin : (e.diagrams.values.filterMap (·.drawing.deadline?)).min? with
  | some t => exact (hdeadlines (List.min?_mem hmin)).symm
  | none =>
    rw [List.min?_eq_none_iff, List.filterMap_eq_nil_iff] at hmin
    refine (hmin d ?_).symm
    rw [Dict.values_eq, List.mem_map]
    exact ⟨(c, d), Std.ExtTreeMap.mem_toList_iff_getElem?_eq_some.2 hd, rfl⟩

/-- After the only highlight there is has ended, none is left. -/
theorem alike_settle {e : Explorer σ} {c : String} {d : Diagram} (hd : e.diagrams[c]? = some d)
    (hnodup : (d.drawing.surface.elements.map (·.id)).Nodup)
    (hothers : ∀ (k : String) (d' : Diagram), k ≠ c → e.diagrams[k]? = some d' → d'.drawing.flash = none) :
    (settle e).Alike e.unflashed := by
  have hdark (k : String) (d' : Diagram) (hk : e.diagrams[k]? = some d') (hkc : k ≠ c) :
      d'.unflashed = d' := Diagram.unflashed_of_dark (hothers k d' hkc hk)
  unfold settle
  rw [nextDeadline?_eq hd hothers]
  cases hdeadline : d.drawing.deadline? with
  | none =>
    have hflash : d.drawing.flash = none := Option.map_eq_none_iff.1 hdeadline
    refine .of_unflashed rfl rfl rfl rfl fun k => ?_
    cases hk : e.diagrams[k]? with
    | none => rfl
    | some d' =>
      by_cases hkc : k = c
      · subst hkc
        cases hd.symm.trans hk
        rw [Option.map_some, Diagram.unflashed_of_dark hflash]
      · rw [Option.map_some, hdark k d' hk hkc]
  | some t =>
    refine .of_unflashed rfl rfl rfl rfl fun k => ?_
    simp only [Explorer.tick, Std.ExtTreeMap.getElem?_map]
    cases hk : e.diagrams[k]? with
    | none => rfl
    | some d' =>
      by_cases hkc : k = c
      · subst hkc
        cases hd.symm.trans hk
        simp only [Option.map_some, Drawing.expireFlash_eq hnodup, hdeadline, Option.any_some,
          Int.le_refl, decide_true, if_true]
        rfl
      · simp only [Option.map_some, Drawing.expireFlash_of_dark (hothers k d' hkc hk),
          hdark k d' hk hkc]

/-! ## One line -/

variable [BlobStore σ] {r r' : Replay σ} {line : String}

/-- A line that is refused is reported, and leaves a replay as it was. -/
theorem feed_of_not_accepts (h : accepts line = false) (r : Replay σ) (now : Int) (number : Nat) :
    Alike (r.feed now number line) r ∧
      (r.feed now number line).events = r.events ++ [.skipped number] := by
  obtain ⟨cause, hread⟩ := accepts_eq_false_iff.1 h
  cases hresult : ((r.explorer.passTime now).render container line (r.rendered = 0) now).1 with
  | ok _ =>
    obtain ⟨s, hread', -⟩ := Explorer.accepts_of_render hresult
    cases hread.symm.trans hread'
  | error cause =>
    have halike := (Explorer.Alike.reject (r.explorer.passTime now) container cause now).trans
      (.passTime r.explorer now)
    rw [← Explorer.reject_of_render hresult] at halike
    simp only [feed]
    generalize (r.explorer.passTime now).render container line (r.rendered = 0) now = rendered
      at hresult halike ⊢
    obtain ⟨_, explorer⟩ := rendered
    cases hresult
    exact ⟨⟨rfl, halike⟩, rfl⟩

/-- A line that is accepted is counted and reported, with the diagram it has led to. Then
its highlight ends. -/
theorem feed_of_accepts (h : accepts line = true) (hr : r.Steady) (now : Int) (number : Nat) :
    ∃ explorer d,
      explorer = ((r.explorer.passTime now).render container line (r.rendered = 0) now).2 ∧
      explorer.diagrams[container]? = some d ∧
      r.feed now number line = {
        explorer := settle explorer
        rendered := r.rendered + 1
        events := r.events ++ renderedEvents number (r.rendered = 0) (some d) } ∧
      (settle explorer).Alike explorer.unflashed ∧
      explorer.pending[container]? = none := by
  obtain ⟨s, hread⟩ := accepts_eq_true_iff.1 h
  have hfirst : decide (r.rendered = 0) = true ∨
      (r.explorer.passTime now).diagrams[container]?.isSome = true := hr.live.imp_left decide_eq_true
  have hresult := Explorer.render_of_read hread hfirst now
  obtain ⟨s', hread', haccepts⟩ := Explorer.accepts_of_render hresult
  have hwf := Snapshot.wellFormed_of_read hread'
  obtain ⟨d, hdiagrams, htakes⟩ := haccepts.exists_insert hwf
  have hd : ((r.explorer.passTime now).render container line (r.rendered = 0) now).2.diagrams[container]?
      = some d := by
    rw [hdiagrams, Dict.getElem?_insert_self]
  have hsettle := alike_settle hd (htakes.shows.drawing.wellFormed hwf).nodup fun k d' hk hd' => by
    rw [hdiagrams, Dict.getElem?_insert_of_ne _ (Ne.symm hk)] at hd'
    exact hr.dark k d' hd'
  refine ⟨_, d, rfl, hd, ?_, hsettle, haccepts.pending_eq_none hr.pending⟩
  simp only [feed]
  generalize (r.explorer.passTime now).render container line (r.rendered = 0) now = rendered
    at hresult hd ⊢
  obtain ⟨_, explorer⟩ := rendered
  cases hresult
  simp only [hd]
  rfl

theorem Steady.feed (hr : r.Steady) (now : Int) (number : Nat) (line : String) :
    (r.feed now number line).Steady := by
  cases haccepts : accepts line with
  | false => exact (feed_of_not_accepts haccepts r now number).1.symm.steady hr
  | true =>
    obtain ⟨explorer, d, -, hd, hfeed, hsettle, hpending⟩ := feed_of_accepts haccepts hr now number
    rw [hfeed]
    refine ⟨.inr ?_, hsettle.pending ▸ hpending, hsettle.symm.isDark explorer.isDark_unflashed⟩
    rw [diagram?, hsettle.isSome_diagram, Explorer.unflashed, Std.ExtTreeMap.getElem?_map, hd]
    rfl

/-- A line that is accepted leads to the same at any time. -/
theorem Alike.feed (h : Alike r r') (hr : r.Steady) (haccepts : accepts line = true)
    (now now' : Int) (number number' : Nat) :
    Alike (r.feed now number line) (r'.feed now' number' line) := by
  obtain ⟨explorer, d, rfl, -, hfeed, hsettle, -⟩ := feed_of_accepts haccepts hr now number
  obtain ⟨explorer', d', rfl, -, hfeed', hsettle', -⟩ :=
    feed_of_accepts haccepts (h.steady hr) now' number'
  obtain ⟨s, hread⟩ := accepts_eq_true_iff.1 haccepts
  have hpassed : (r.explorer.passTime now).Alike (r'.explorer.passTime now') :=
    (Explorer.Alike.passTime r.explorer now).trans
      (h.explorer.trans (Explorer.Alike.passTime r'.explorer now').symm)
  have hrender := hpassed.render hread (hr.live.imp_left decide_eq_true) hr.pending now now'
  rw [hfeed, hfeed', ← h.rendered]
  exact ⟨rfl, hsettle.trans (hrender.trans (h.rendered ▸ hsettle'.symm))⟩

/-! ## Many lines -/

variable {clock clock' : Nat → Int}

theorem feedAll_cons (r : Replay σ) (clock : Nat → Int) (number : Nat) (line : String)
    (lines : List (Nat × String)) :
    r.feedAll clock ((number, line) :: lines)
      = (r.feed (clock number) number line).feedAll clock lines := rfl

theorem feedAll_append (r : Replay σ) (clock : Nat → Int) (lines lines' : List (Nat × String)) :
    r.feedAll clock (lines ++ lines') = (r.feedAll clock lines).feedAll clock lines' :=
  List.foldl_append

theorem Steady.feedAll (hr : r.Steady) (clock : Nat → Int) (lines : List (Nat × String)) :
    (r.feedAll clock lines).Steady := by
  induction lines generalizing r with
  | nil => exact hr
  | cons p lines ih =>
    obtain ⟨number, line⟩ := p
    exact ih (hr.feed (clock number) number line)

/-- The numbers and the times of the lines make no difference. -/
theorem Alike.feedAll_of_map_eq (h : Alike r r') (hr : r.Steady) {lines lines' : List (Nat × String)}
    (hlines : lines.map (·.2) = lines'.map (·.2)) (haccepts : ∀ p ∈ lines, accepts p.2 = true) :
    Alike (r.feedAll clock lines) (r'.feedAll clock' lines') := by
  induction lines generalizing r r' lines' with
  | nil =>
    cases lines' with
    | nil => exact h
    | cons => cases hlines
  | cons p lines ih =>
    cases lines' with
    | nil => cases hlines
    | cons p' lines' =>
      rw [List.map_cons, List.map_cons, List.cons.injEq] at hlines
      rw [List.forall_mem_cons] at haccepts
      obtain ⟨number, line⟩ := p
      obtain ⟨number', line'⟩ := p'
      cases hlines.1
      exact ih (h.feed hr haccepts.1 _ _ number number') (hr.feed _ number line) hlines.2 haccepts.2

/-- The lines that are refused make no difference. -/
theorem alike_feedAll_filter (hr : r.Steady) (clock : Nat → Int) (lines : List (Nat × String)) :
    Alike (r.feedAll clock lines) (r.feedAll clock (lines.filter (accepts ·.2))) := by
  suffices ∀ r' : Replay σ, Alike r r' →
      Alike (r.feedAll clock lines) (r'.feedAll clock (lines.filter (accepts ·.2))) from
    this r (.refl r)
  induction lines generalizing r with
  | nil => exact fun r' h => h
  | cons p lines ih =>
    intro r' h
    obtain ⟨number, line⟩ := p
    cases haccepts : accepts line with
    | false =>
      have halike := (feed_of_not_accepts haccepts r (clock number) number).1
      rw [List.filter_cons, if_neg (by simp [haccepts]), feedAll_cons]
      exact ih (hr.feed _ number line) r' (halike.trans h)
    | true =>
      rw [List.filter_cons, if_pos haccepts, feedAll_cons, feedAll_cons]
      exact ih (hr.feed _ number line) _ (h.feed hr haccepts _ _ number number)

theorem alike_feedAll (hr : r.Steady) (clock clock' : Nat → Int) {lines lines' : List (Nat × String)}
    (hlines : (lines.map (·.2)).filter accepts = (lines'.map (·.2)).filter accepts) :
    Alike (r.feedAll clock lines) (r.feedAll clock' lines') := by
  rw [List.filter_map, List.filter_map] at hlines
  have hfiltered : Alike (r.feedAll clock (lines.filter (accepts ·.2)))
      (r.feedAll clock' (lines'.filter (accepts ·.2))) :=
    (Alike.refl r).feedAll_of_map_eq hr hlines fun p hp => (List.mem_filter.1 hp).2
  exact (alike_feedAll_filter hr clock lines).trans
    (hfiltered.trans (alike_feedAll_filter hr clock' lines').symm)

theorem rendered_feedAll (hr : r.Steady) (clock : Nat → Int) (lines : List (Nat × String)) :
    (r.feedAll clock lines).rendered
      = r.rendered + ((lines.map (·.2)).filter accepts).length := by
  induction lines generalizing r with
  | nil => rfl
  | cons p lines ih =>
    obtain ⟨number, line⟩ := p
    rw [feedAll_cons, ih (hr.feed _ number line), List.map_cons, List.filter_cons]
    cases haccepts : accepts line with
    | false =>
      rw [(feed_of_not_accepts haccepts r _ number).1.rendered]
      rfl
    | true =>
      obtain ⟨explorer, d, -, -, hfeed, -⟩ := feed_of_accepts haccepts hr (clock number) number
      rw [hfeed, if_pos rfl, List.length_cons]
      exact Nat.add_right_comm _ _ _

/-! ## Reports -/

theorem events_feedAll_of_not_accepts (r : Replay σ) (clock : Nat → Int)
    {lines : List (Nat × String)} (h : ∀ p ∈ lines, accepts p.2 = false) :
    (r.feedAll clock lines).events = r.events ++ lines.map (Event.skipped ·.1) := by
  induction lines generalizing r with
  | nil => exact (List.append_nil _).symm
  | cons p lines ih =>
    rw [List.forall_mem_cons] at h
    obtain ⟨number, line⟩ := p
    rw [feedAll_cons, ih _ h.2, (feed_of_not_accepts h.1 r _ number).2, List.append_assoc]
    rfl

/-- Nothing is rendered as the first snapshot once something has been rendered. -/
theorem exists_events_feedAll (hr : r.Steady) (hrendered : r.rendered ≠ 0) (clock : Nat → Int)
    (lines : List (Nat × String)) :
    ∃ later, (r.feedAll clock lines).events = r.events ++ later ∧ ∀ d, Event.started d ∉ later := by
  induction lines generalizing r with
  | nil => exact ⟨[], (List.append_nil _).symm, fun _ => List.not_mem_nil⟩
  | cons p lines ih =>
    obtain ⟨number, line⟩ := p
    have hfeed : ∃ event, (r.feed (clock number) number line).events = r.events ++ [event] ∧
        (∀ d, Event.started d ≠ event) ∧ (r.feed (clock number) number line).rendered ≠ 0 := by
      cases haccepts : accepts line with
      | false =>
        obtain ⟨halike, hevents⟩ := feed_of_not_accepts haccepts r (clock number) number
        exact ⟨_, hevents, fun _ => Event.noConfusion, halike.rendered ▸ hrendered⟩
      | true =>
        obtain ⟨explorer, d, -, -, hfeed, -⟩ := feed_of_accepts haccepts hr (clock number) number
        rw [hfeed, decide_eq_false hrendered]
        exact ⟨.applied number d, rfl, fun _ => Event.noConfusion, Nat.succ_ne_zero _⟩
    obtain ⟨event, hevents, hevent, hrendered'⟩ := hfeed
    obtain ⟨later, hlater, hnone⟩ := ih (hr.feed _ number line) hrendered'
    refine ⟨event :: later, ?_, fun d => List.not_mem_cons_of_ne_of_not_mem (hevent d) (hnone d)⟩
    rw [feedAll_cons, hlater, hevents, List.append_assoc]
    rfl

/-- The first line that is accepted is rendered as the first snapshot, and no other line is. -/
theorem exists_events_run (hr : r.Steady) (h : r.rendered = 0) (clock : Nat → Int) {before after : List (Nat × String)} {number : Nat}
    {text : String} (hlines : snapshotLines text = before ++ (number, line) :: after)
    (hbefore : ∀ p ∈ before, accepts p.2 = false) (hline : accepts line = true) :
    ∃ d later, (r.run clock text).events = r.events ++ before.map (Event.skipped ·.1)
        ++ .started d :: .applied number d :: later ∧
      ∀ d', Event.started d' ∉ later := by
  have hrendered : (r.feedAll clock before).rendered = 0 := by
    have hnone : (before.map (·.2)).filter accepts = [] := by
      rw [List.filter_map, List.map_eq_nil_iff, List.filter_eq_nil_iff]
      exact fun p hp => Bool.eq_false_iff.1 (hbefore p hp)
    rw [rendered_feedAll hr, h, hnone, List.length_nil]
  have hr' := hr.feedAll clock before
  obtain ⟨explorer, d, -, -, hfeed, -⟩ := feed_of_accepts hline hr' (clock number) number
  rw [hrendered, events_feedAll_of_not_accepts r clock hbefore] at hfeed
  have hrendered' : ((r.feedAll clock before).feed (clock number) number line).rendered ≠ 0 := by
    rw [hfeed]
    exact Nat.succ_ne_zero _
  obtain ⟨later, hlater, hnone⟩ :=
    exists_events_feedAll (hr'.feed (clock number) number line) hrendered' clock after
  refine ⟨d, later ++ [.finished (r.feedAll clock (snapshotLines text)).rendered], ?_,
    fun d' hd' => ?_⟩
  · simp only [run, finish, report]
    rw [hlines, feedAll_append, feedAll_cons, hlater, hfeed]
    simp [renderedEvents]
  · rcases List.mem_append.1 hd' with hd' | hd'
    · exact hnone d' hd'
    · cases List.mem_singleton.1 hd'

/-! ## Ends -/

theorem Alike.conclude (h : Alike r r') (path : Option String) (writable : Bool) :
    (r.conclude path writable).exported = (r'.conclude path writable).exported ∧
      (r.conclude path writable).replay.explorer.store
        = (r'.conclude path writable).replay.explorer.store := by
  obtain ⟨hexported, hstore⟩ := h.explorer.exportLayouts container
  cases path with
  | none => exact ⟨rfl, h.explorer.store⟩
  | some path =>
    simp only [Replay.conclude, bundle]
    generalize r.explorer.exportLayouts container = ended at hexported hstore ⊢
    generalize r'.explorer.exportLayouts container = ended' at hexported hstore ⊢
    obtain ⟨exported, explorer⟩ := ended
    obtain ⟨_, explorer'⟩ := ended'
    cases hexported
    cases exported with
    | none => exact ⟨rfl, hstore⟩
    | some bundle => cases writable <;> exact ⟨rfl, hstore⟩

/-! ## Replays of accepted lines -/

/-- A replay depends on nothing but the lines of its file that spell a snapshot when they
are trimmed. A file of these lines leads to the same diagram, but for what was wrong with
the last snapshot, to the same store and to the same bundle, whatever the clock says at the
lines of either file. Each of its lines is rendered, the first one as the first snapshot,
however many lines were refused before it. -/
theorem replay_of_accepted_lines (o : Options) (place : String) (store : σ) (host : Host)
    (text : String) :
    (∃ accepted : String, Text.lines accepted.toList
      = (Text.lines text.toList).filter (accepts <| trimmed ·)) ∧
    ∀ (accepted : String) (clock clock' : Nat → Int),
      Text.lines accepted.toList = (Text.lines text.toList).filter (accepts <| trimmed ·) →
      let r := (start o place store host).run clock text
      let r' := (start o place store host).run clock' accepted
      r.diagram?.map Diagram.withoutError = r'.diagram?.map Diagram.withoutError ∧
      r.explorer.store = r'.explorer.store ∧
      (∀ path writable, (r.conclude path writable).exported = (r'.conclude path writable).exported ∧
        (r.conclude path writable).replay.explorer.store
          = (r'.conclude path writable).replay.explorer.store) ∧
      r.rendered = (Text.lines accepted.toList).length ∧ r'.rendered = r.rendered ∧
      ∀ first rest, Text.lines accepted.toList = first :: rest →
        ∃ before number after d later,
          snapshotLines text = before ++ (number, trimmed first) :: after ∧
          (∀ p ∈ before, accepts p.2 = false) ∧
          r.events = .storeReady place :: before.map (Event.skipped ·.1)
            ++ .started d :: .applied number d :: later ∧
          ∀ d', Event.started d' ∉ later := by
  constructor
  · have hlines : ∀ line ∈ (Text.lines text.toList).filter (accepts <| trimmed ·), '\n' ∉ line :=
      fun line hline => Text.not_mem_of_mem_lines (List.mem_of_mem_filter hline)
    exact ⟨String.ofList _, by rw [String.toList_ofList, Text.lines_flatMap hlines]⟩
  · intro accepted clock clock' h r r'
    have hsteady := steady_start o place store host
    have haccepted : ((snapshotLines text).map (·.2)).filter accepts
        = (Text.lines accepted.toList).map trimmed := by
      rw [filter_snapshotLines, h]
    have hfilter : ((snapshotLines text).map (·.2)).filter accepts
        = ((snapshotLines accepted).map (·.2)).filter accepts := by
      rw [filter_snapshotLines, filter_snapshotLines, h, List.filter_filter]
      simp only [Bool.and_self]
    have hfed := alike_feedAll hsteady clock clock' hfilter
    have halike : Alike r r' := ⟨hfed.rendered, hfed.explorer⟩
    refine ⟨halike.explorer.diagram container, halike.explorer.store, halike.conclude, ?_,
      halike.rendered.symm, fun first rest hfirst => ?_⟩
    · calc r.rendered
          = 0 + (((snapshotLines text).map (·.2)).filter accepts).length := rendered_feedAll hsteady clock _
        _ = (Text.lines accepted.toList).length := by
          rw [haccepted, List.length_map, Nat.zero_add]
    · rw [hfirst, List.map_cons, List.filter_map, List.map_eq_cons_iff] at haccepted
      obtain ⟨⟨number, line⟩, _, hcons, rfl, -⟩ := haccepted
      obtain ⟨before, after, hlines, hbefore, hline, -⟩ := List.filter_eq_cons_iff.1 hcons
      have hrefused : ∀ p ∈ before, accepts p.2 = false :=
        fun p hp => Bool.eq_false_iff.2 (hbefore p hp)
      obtain ⟨d, later, hevents, hnone⟩ :=
        exists_events_run hsteady rfl clock hlines hrefused hline
      exact ⟨before, number, after, d, later, hlines, hrefused, hevents, hnone⟩

/-- A snapshot between a line that is none and a blank one, rendered later than alone. -/
theorem replay_of_accepted_lines_of_refused :
    let r := start (σ := MemoryStore) { snapshots := "log" } "place" {} {}
    let text := "no snapshot\n [[],[true,[]]]\r\n \n"
    let accepted := " [[],[true,[]]]\n"
    Text.lines accepted.toList = (Text.lines text.toList).filter (accepts <| trimmed ·) ∧
      (r.run (fun number => number) text).diagram?.map Diagram.withoutError
        = (r.run (fun _ => 0) accepted).diagram?.map Diagram.withoutError ∧
      (r.run (fun number => number) text).rendered = 1 := by
  intro r text accepted
  have hlines : Text.lines accepted.toList
      = (Text.lines text.toList).filter (accepts <| trimmed ·) := by decide +kernel
  obtain ⟨hdiagram, -, -, hrendered, -⟩ :=
    (replay_of_accepted_lines { snapshots := "log" } "place" ({} : MemoryStore) {} text).2 accepted
      (fun number => number) (fun _ => 0) hlines
  exact ⟨hlines, hdiagram, hrendered.trans (by decide +kernel)⟩

end Statescope.Replay
