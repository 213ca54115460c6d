-- SUMMARY: A timer lives from its start to exactly one of the commands that cancel it, and makes every call in between.
import Statescope.Proofs.Explorer.Driving
import Statescope.Proofs.Explorer.Timers

/-!
# Auto-advance over runs

A timer is started for a container that has a diagram and no timer. It is cancelled by
the gestures that take a step, by switching it off, and by the end of its diagram. From
the one to the other it makes a call for each tick that falls due, and outside of this
time there are none.
-/

namespace Statescope

/-! ## Pace -/

namespace Log

/-- Whether a command with this reply cancels the timer of the container: an accepted tap,
click or undo, switching it off, disposal, and an accepted first snapshot. -/
def cancels (container : String) : Command × Reply → Bool
  | (.tap c _, .transition t) => c = container && t.isSome
  | (.click c _, .flag b) | (.undo c, .flag b) | (.dispose c, .flag b) => c = container && b
  | (.setAutoAdvance c enabled _, _) => c = container && !enabled
  | (.render c _ isFirst _, .rendered (.ok ())) => c = container && isFirst
  | _ => false

/-- Whether a command with this reply switches the timer of the container on. -/
def starts (container : String) : Command × Reply → Bool
  | (.setAutoAdvance c enabled _, .flag b) => c = container && enabled && b
  | _ => false

theorem cancels_of_sent {event : Command × Reply} {container : String} {call : EngineCall}
    (h : sent? event = some (container, call)) (container' : String) :
    cancels container' event = decide (container = container') := by
  unfold sent? at h
  split at h <;> cases h <;> simp [cancels]

theorem starts_of_sent {event : Command × Reply} {container : String} {call : EngineCall}
    (h : sent? event = some (container, call)) (container' : String) :
    starts container' event = false := by
  unfold sent? at h
  split at h <;> cases h <;> rfl

end Log

namespace Explorer

/-- The last moment at which the timer that a command cancels still ticks. That is now,
except that an old diagram goes on while a new one waits for its oracle. -/
def lastTick [BlobStore σ] (e : Explorer σ) : Command → Int
  | .render container _ true _ => lastTickTime (e.prepareFirst container).1 e.now
  | _ => e.now

/-- A diagram outlives every command that does not cancel its timer. -/
theorem Changes.contains_of_not_cancels {e e' : Explorer σ} {c : Command} {reply : Reply}
    {container : String} (h : Changes e c reply e') (hlive : e.diagrams.contains container = true)
    (hkeep : Log.cancels container (c, reply) = false) : e'.diagrams.contains container = true := by
  cases h with
  | steps _ h => rw [h.contains_eq, hlive]
  | accept _ _ _ _ h => rw [h, Std.ExtTreeMap.contains_insert, hlive, Bool.or_true]
  | @dispose container' _ h =>
    have hc : container' ≠ container := by simpa [Log.cancels] using hkeep
    rw [h, Std.ExtTreeMap.contains_erase, hlive]
    simpa using hc

variable [BlobStore σ] {e e' : Explorer σ} {c : Command} {reply : Reply} {s : Schedule}
  {container : String} {t : Timer} {before total : List (String × EngineCall)}

/-! ## Events and schedules -/

theorem cancels_eq_false_of_isIdle (h : IsIdle c reply = true) :
    Log.cancels container (c, reply) = false := by
  unfold Log.cancels
  split <;> first | rfl | (rename_i heq; cases heq; simp_all [IsIdle])

theorem starts_eq_false_of_isIdle (h : IsIdle c reply = true) :
    Log.starts container (c, reply) = false := by
  unfold Log.starts
  split <;> first | rfl | (rename_i heq; cases heq; cases h)

theorem cancels_eq_false_of_starts (h : Log.starts container (c, reply) = true) :
    Log.cancels container (c, reply) = false := by
  unfold Log.starts at h
  split at h
  · rename_i heq
    cases heq
    simp_all [Log.cancels]
  · cases h

theorem lastTick_of_sent {call : EngineCall} (h : Log.sent? (c, reply) = some (container, call)) :
    e.lastTick c = e.now := by
  cases c <;> first | rfl | cases h

theorem time_prepareFirst (e : Explorer σ) (container : String) :
    e.now ≤ (e.prepareFirst container).1.time := by
  obtain ⟨store, hstore⟩ := seedLayouts_eq e
  unfold prepareFirst
  rw [hstore]
  simp only [takeFeed, Feed.await?]
  cases e.pending[container]? with
  | none => exact Int.le_refl _
  | some channel => exact Feed.le_time_await _ _ _

theorem lastTickTime_bounds {wait : Wait} {now : Int} (h : now ≤ wait.time) :
    now ≤ lastTickTime wait now ∧ lastTickTime wait now ≤ wait.time := by
  unfold lastTickTime
  split <;> omega

theorem passTime_prepareFirst_bounds (e : Explorer σ) (container : String) :
    e.now ≤ lastTickTime (e.prepareFirst container).1 e.now ∧
      lastTickTime (e.prepareFirst container).1 e.now ≤ (e.prepareFirst container).1.time :=
  lastTickTime_bounds (time_prepareFirst e container)

/-! ## One command -/

theorem Schedules.sound (h : Schedules e c reply s) (hs : e.schedule.Sound) : s.Sound := by
  cases h with
  | idle _ => exact hs
  | sent container call _ => exact (hs.cancel container).call container call
  | start _ _ hidle => exact hs.start (Timers.ownedBy_eq_nil_iff.2 hidle) _
  | restart _ _ _ => exact hs
  | stop _ _ => exact hs.cancel _
  | absent _ _ _ => exact hs
  | dispose _ => exact hs.cancel _
  | first container _ _ =>
    obtain ⟨hlast, hwait⟩ := passTime_prepareFirst_bounds e container
    exact ((hs.passTime hlast).cancel container).passTime hwait
  | advance millis => exact hs.passTime (Int.le_add_of_nonneg_right (Int.natCast_nonneg millis))

/-- A timer that is not cancelled goes on, and its account with it. -/
theorem Schedules.runs (h : Schedules e c reply s) (hs : e.schedule.Sound)
    (hrun : e.schedule.Runs t before) (hkeep : Log.cancels t.owner (c, reply) = false) :
    s.Runs t before := by
  cases h with
  | idle _ => exact hrun
  | sent container call h =>
    have hc : container ≠ t.owner := by simpa [Log.cancels_of_sent h] using hkeep
    exact (hrun.cancel_of_ne hc).call_of_ne hc call
  | @start container _ _ hidle =>
    -- A container whose timer runs is not idle.
    have hc : container ≠ t.owner := by
      rintro rfl
      cases (Timers.ownedBy_eq_nil_iff.2 hidle).symm.trans hrun.timer
    exact hrun.start_of_ne hc _
  | restart _ _ _ => exact hrun
  | @stop container _ _ =>
    have hc : container ≠ t.owner := by simpa [Log.cancels] using hkeep
    exact hrun.cancel_of_ne hc
  | absent _ _ _ => exact hrun
  | dispose container =>
    have hc : container ≠ t.owner := by simpa [Log.cancels] using hkeep
    exact hrun.cancel_of_ne hc
  | first container _ _ =>
    have hc : container ≠ t.owner := by simpa [Log.cancels] using hkeep
    obtain ⟨hlast, hwait⟩ := passTime_prepareFirst_bounds e container
    have hs' := (hs.passTime hlast).cancel container
    exact ((hrun.passTime hs hlast).cancel_of_ne hc).passTime hs' hwait
  | advance millis =>
    exact hrun.passTime hs (Int.le_add_of_nonneg_right (Int.natCast_nonneg millis))

/-- A timer that is cancelled has made the calls that were due until then. -/
theorem Schedules.rests_of_cancels (h : Schedules e c reply s) (hs : e.schedule.Sound)
    (hrun : e.schedule.Runs t before) (hlive : e.diagrams.contains t.owner = true)
    (hcancel : Log.cancels t.owner (c, reply) = true) :
    s.Rests t.owner (before ++ t.callsBy (e.lastTick c)) := by
  cases h with
  | idle h => simp [cancels_eq_false_of_isIdle h] at hcancel
  | sent container call h =>
    have hc : container = t.owner := by simpa [Log.cancels_of_sent h] using hcancel
    subst hc
    rw [lastTick_of_sent h]
    exact hrun.cancel.call (Log.isAdvance_of_sent h) t.owner
  | start _ _ _ => simp [Log.cancels] at hcancel
  | restart _ _ _ => simp [Log.cancels] at hcancel
  | @stop container _ _ =>
    have hc : container = t.owner := by simpa [Log.cancels] using hcancel
    subst hc
    exact hrun.cancel
  | @absent container enabled _ habsent =>
    -- There is a diagram for each timer that runs.
    have hc : container = t.owner ∧ enabled = false := by simpa [Log.cancels] using hcancel
    rw [hc.1, hlive] at habsent
    cases habsent
  | dispose container =>
    have hc : container = t.owner := by simpa [Log.cancels] using hcancel
    subst hc
    exact hrun.cancel
  | first container _ _ =>
    have hc : container = t.owner := by simpa [Log.cancels] using hcancel
    subst hc
    -- It ticks for the old diagram, and is gone for the rest of the wait.
    exact (hrun.passTime hs (passTime_prepareFirst_bounds e t.owner).1).cancel.passTime
  | advance _ => simp [Log.cancels] at hcancel

/-- Where no timer is started, none makes a call. -/
theorem Schedules.rests (h : Schedules e c reply s) (hrest : e.schedule.Rests container total)
    (hoff : Log.starts container (c, reply) = false) : s.Rests container total := by
  cases h with
  | idle _ => exact hrest
  | sent container' call h =>
    exact (hrest.cancel container').call (Log.isAdvance_of_sent h) container'
  | @start container' _ _ _ =>
    have hc : container' ≠ container := by simpa [Log.starts] using hoff
    exact hrest.start_of_ne hc _
  | restart _ _ _ => exact hrest
  | @stop container' _ _ => exact hrest.cancel container'
  | absent _ _ _ => exact hrest
  | dispose container' => exact hrest.cancel container'
  | first container' _ _ => exact (hrest.passTime.cancel container').passTime
  | advance _ => exact hrest.passTime

/-- What starts a timer leaves it running, and its account begins. -/
theorem Schedules.runs_of_starts (h : Schedules e c reply s) (hidle : e.isRunning container = false)
    (hon : Log.starts container (c, reply) = true) :
    e.diagrams.contains container = true ∧ ∃ t before, t.owner = container ∧ s.Runs t before := by
  cases h with
  | idle h => simp [starts_eq_false_of_isIdle h] at hon
  | @start container' _ hlive _ =>
    have hc : container' = container := by simpa [Log.starts] using hon
    subst hc
    exact ⟨hlive, _, _, rfl, Schedule.runs_start (s := e.schedule) (Timers.ownedBy_eq_nil_iff.2 hidle) _⟩
  | @restart container' _ _ hrunning =>
    have hc : container' = container := by simpa [Log.starts] using hon
    rw [hc, hidle] at hrunning
    cases hrunning
  | sent _ _ h => simp [Log.starts_of_sent h] at hon
  | stop _ _ | absent _ _ _ | dispose _ | first _ _ _ | advance _ => simp [Log.starts] at hon

/-- What holds of the timers in every state that a run can reach. A timer is never left
behind by its diagram, and has an account of its calls. -/
structure Steady (e : Explorer σ) : Prop where
  sound : e.schedule.Sound
  running (container : String) (h : e.isRunning container = true) :
    e.diagrams.contains container = true ∧
      ∃ t before, t.owner = container ∧ e.schedule.Runs t before

theorem Steady.perform (h : e.Steady) (c : Command) : (e.perform c).2.Steady := by
  have hschedules := schedules_perform e c
  have hchanges := changes_perform e c
  refine ⟨hschedules.sound h.sound, fun container hrunning => ?_⟩
  -- A timer that runs now has been started just now, or it ran before and was not cancelled.
  cases hbefore : e.isRunning container with
  | false =>
    cases hon : Log.starts container (c, (e.perform c).1) with
    | false =>
      have hrest := hschedules.rests (Schedule.rests_of_idle hbefore) hon
      cases hrest.isRunning.symm.trans hrunning
    | true =>
      obtain ⟨hlive, haccount⟩ := hschedules.runs_of_starts hbefore hon
      exact ⟨hchanges.contains_of_not_cancels hlive (cancels_eq_false_of_starts hon), haccount⟩
  | true =>
    obtain ⟨hlive, t, before, rfl, hrun⟩ := h.running container hbefore
    cases hcancel : Log.cancels t.owner (c, (e.perform c).1) with
    | false =>
      exact ⟨hchanges.contains_of_not_cancels hlive hcancel, t, before, rfl,
        hschedules.runs h.sound hrun hcancel⟩
    | true =>
      have hrest := hschedules.rests_of_cancels h.sound hrun hlive hcancel
      cases hrest.isRunning.symm.trans hrunning

theorem Steady.run {log : Log} (h : e.Steady) (hrun : Run e log e') : e'.Steady := by
  induction hrun with
  | nil => exact h
  | perform c _ ih => exact ih.perform c
  | outside store host _ ih => exact ⟨ih.sound, ih.running⟩

omit [BlobStore σ] in
theorem steady_initial (store : LayoutStore σ) (prefs : Prefs) (host : Host) (now : Int) :
    (initial store prefs host now).Steady := by
  refine ⟨⟨fun _ => Nat.zero_le 1, fun t ht => ?_, fun t ht => ?_⟩, fun container h => ?_⟩
  · cases ht
  · cases ht
  · cases h

/-! ## Accounts over runs -/

variable {store : LayoutStore σ} {prefs : Prefs} {host : Host} {now : Int} {log : Log}

end Explorer

end Statescope
