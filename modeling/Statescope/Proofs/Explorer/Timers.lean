-- SUMMARY: The schedule while a timer of a container runs, and while none does, operation by operation.
import Statescope.Proofs.Clock.Ticks
import Statescope.Proofs.Explorer.Schedule

/-!
# Timers in a schedule

`Schedule.Sound` is what holds of the timers at all times. `Schedule.Runs` and
`Schedule.Rests` keep account of what the timer of a container has told the model:
while it runs, one call for its start and one for each tick due by now; while there is
none, nothing more.
-/

namespace Statescope

/-- What a timer has called by some moment: once for its start, and once for each tick
due by then. -/
def Timer.callsBy (t : Timer) (v : Int) : List (String × EngineCall) :=
  List.replicate (1 + t.ticksBy v) (t.owner, .advance t.delay)

namespace Schedule

variable {s : Schedule} {t : Timer} {container : String} {stop : Int}
  {before : List (String × EngineCall)}

/-! ## Soundness -/

/-- A container has at most one timer. All timers have a clamped delay, and none starts
in the future. -/
structure Sound (s : Schedule) : Prop where
  one (container : String) : (s.timers.ownedBy container).length ≤ 1
  clamped : ∀ t ∈ s.timers, ∃ x, t.delay = clampDelay x
  started : ∀ t ∈ s.timers, t.started ≤ s.now

theorem Sound.nanosPerMilli_le_period (h : s.Sound) :
    ∀ t ∈ s.timers, nanosPerMilli ≤ t.period := by
  intro t ht
  obtain ⟨x, hx⟩ := h.clamped t ht
  have hbounds := (Timer.period_bounds hx).1
  unfold nanosPerMilli
  omega

theorem Sound.call (h : s.Sound) (container : String) (c : EngineCall) : (s.call container c).Sound :=
  ⟨h.one, h.clamped, h.started⟩

theorem Sound.cancel (h : s.Sound) (container : String) : (s.cancel container).Sound := by
  have hmem (t : Timer) (ht : t ∈ (s.cancel container).timers) : t ∈ s.timers :=
    List.mem_of_mem_filter ht
  refine ⟨fun container' => ?_, fun t ht => h.clamped t (hmem t ht),
    fun t ht => h.started t (hmem t ht)⟩
  by_cases hc : container' = container
  · subst hc
    simp [Schedule.cancel]
  · simpa [Schedule.cancel, hc] using h.one container'

theorem Sound.start (h : s.Sound) (hidle : s.timers.ownedBy container = []) (x : Float) :
    (s.start container (clampDelay x)).Sound := by
  have hmem (t : Timer) (ht : t ∈ (s.start container (clampDelay x)).timers) :
      t ∈ s.timers ∨ t = ⟨container, clampDelay x, s.now⟩ := by
    simp only [Schedule.start, Schedule.call, Timers.start] at ht
    split at ht
    · exact .inl ht
    · simpa using ht
  refine ⟨fun container' => ?_, fun t ht => ?_, fun t ht => ?_⟩
  · by_cases hc : container' = container
    · subst hc
      exact Nat.le_of_eq (congrArg List.length (Timers.ownedBy_start_self hidle))
    · exact (congrArg List.length (Timers.ownedBy_start_of_ne hc)).trans_le (h.one container')
  · rcases hmem t ht with ht | rfl
    · exact h.clamped t ht
    · exact ⟨x, rfl⟩
  · rcases hmem t ht with ht | rfl
    · exact h.started t ht
    · exact Int.le_refl _

theorem Sound.passTime (h : s.Sound) (hstop : s.now ≤ stop) : (s.passTime stop).Sound := by
  refine ⟨fun container => ?_, fun t ht => ?_, fun t ht => ?_⟩
  · exact (congrArg List.length (Timers.ownedBy_tick (h.one container))).trans_le (h.one container)
  · exact h.clamped t (Timers.mem_tick.1 ht)
  · exact (h.started t (Timers.mem_tick.1 ht)).trans hstop

/-! ## Calls of timers -/

/-- The calls that let time pass, as far as they are made for a container. -/
def advances (s : Schedule) (container : String) : List (String × EngineCall) :=
  s.calls.filter fun c => c.1 = container && c.2.isAdvance

@[simp] theorem advances_call_of_ne {container' : String} (h : container' ≠ container) (c : EngineCall) :
    (s.call container' c).advances container = s.advances container := by
  simp [advances, call, h]

@[simp] theorem advances_call_of_not_isAdvance {c : EngineCall} (h : c.isAdvance = false)
    (container' : String) : (s.call container' c).advances container = s.advances container := by
  simp [advances, call, h]

theorem advances_passTime_eq (container : String) : (s.passTime stop).advances container
    = s.advances container ++ (s.timers.run s.now stop).1.filter (·.1 = container) := by
  rw [advances, passTime, List.filter_append, advances]
  congr 1
  apply List.filter_congr
  intro c hc
  rcases Timers.isAdvance_of_mem_tick hc with hc | hc
  · cases hc
  · rw [hc, Bool.and_true]

/-! ## A timer that runs -/

/-- The timer runs and is the only one of its container. Since what was called before it,
it has made its calls. -/
structure Runs (s : Schedule) (t : Timer) (before : List (String × EngineCall)) : Prop where
  timer : s.timers.ownedBy t.owner = [t]
  calls : s.advances t.owner = before ++ t.callsBy s.now

theorem runs_start (hidle : s.timers.ownedBy container = []) (delay : Float) :
    (s.start container delay).Runs ⟨container, delay, s.now⟩ (s.advances container) := by
  refine ⟨Timers.ownedBy_start_self hidle, ?_⟩
  have hticks : Timer.ticksBy ⟨container, delay, s.now⟩ s.now = 0 :=
    Timer.ticksBy_started ⟨container, delay, s.now⟩
  simp only [Schedule.start, Schedule.call, Timer.callsBy, hticks]
  simp [advances, EngineCall.isAdvance]

theorem Runs.isRunning (h : s.Runs t before) : s.timers.isRunning t.owner = true := by
  by_contra hidle
  rw [Bool.not_eq_true, ← Timers.ownedBy_eq_nil_iff, h.timer] at hidle
  cases hidle

theorem Runs.cancel_of_ne (h : s.Runs t before) (hc : container ≠ t.owner) :
    (s.cancel container).Runs t before :=
  ⟨(Timers.ownedBy_cancel_of_ne _ hc.symm).trans h.timer, h.calls⟩

theorem Runs.call_of_ne (h : s.Runs t before) (hc : container ≠ t.owner) (c : EngineCall) :
    (s.call container c).Runs t before :=
  ⟨h.timer, (advances_call_of_ne hc c).trans h.calls⟩

theorem Runs.start_of_ne (h : s.Runs t before) (hc : container ≠ t.owner) (delay : Float) :
    (s.start container delay).Runs t before := by
  refine Runs.call_of_ne ?_ hc _
  exact ⟨(Timers.ownedBy_start_of_ne hc.symm).trans h.timer, h.calls⟩

theorem Runs.passTime (h : s.Runs t before) (hs : s.Sound) (hstop : s.now ≤ stop) :
    (s.passTime stop).Runs t before := by
  refine ⟨(Timers.ownedBy_tick (hs.one t.owner)).trans h.timer, ?_⟩
  have hmono : t.ticksBy s.now ≤ t.ticksBy stop := Timer.ticksBy_le_ticksBy hstop
  rw [advances_passTime_eq, Timers.filter_run_of_singleton hs.nanosPerMilli_le_period h.timer, h.calls,
    Timer.callsBy, List.append_assoc, List.replicate_append_replicate]
  have hcount : 1 + t.ticksBy s.now + (t.ticksBy stop - t.ticksBy s.now) = 1 + t.ticksBy stop := by
    omega
  rw [hcount]
  rfl

/-! ## A container without a timer -/

/-- The container has no timer, and this is all that was ever called for one. -/
structure Rests (s : Schedule) (container : String) (total : List (String × EngineCall)) : Prop where
  timer : s.timers.ownedBy container = []
  calls : s.advances container = total

variable {total : List (String × EngineCall)}

theorem rests_of_idle (h : s.timers.isRunning container = false) :
    s.Rests container (s.advances container) :=
  ⟨Timers.ownedBy_eq_nil_iff.2 h, rfl⟩

theorem Rests.isRunning (h : s.Rests container total) : s.timers.isRunning container = false :=
  Timers.ownedBy_eq_nil_iff.1 h.timer

theorem Runs.cancel (h : s.Runs t before) : (s.cancel t.owner).Rests t.owner (before ++ t.callsBy s.now) :=
  ⟨Timers.ownedBy_cancel_self _ _, h.calls⟩

theorem Rests.cancel (h : s.Rests container total) (container' : String) :
    (s.cancel container').Rests container total := by
  refine ⟨?_, h.calls⟩
  by_cases hc : container = container'
  · subst hc
    exact Timers.ownedBy_cancel_self _ _
  · exact (Timers.ownedBy_cancel_of_ne _ hc).trans h.timer

theorem Rests.call (h : s.Rests container total) {c : EngineCall} (hc : c.isAdvance = false)
    (container' : String) : (s.call container' c).Rests container total :=
  ⟨h.timer, (advances_call_of_not_isAdvance hc container').trans h.calls⟩

theorem Rests.start_of_ne (h : s.Rests container total) {container' : String}
    (hc : container' ≠ container) (delay : Float) :
    (s.start container' delay).Rests container total :=
  ⟨(Timers.ownedBy_start_of_ne hc.symm).trans h.timer, (advances_call_of_ne hc _).trans h.calls⟩

theorem Rests.passTime (h : s.Rests container total) : (s.passTime stop).Rests container total := by
  have hone : (s.timers.ownedBy container).length ≤ 1 := by
    rw [h.timer]
    exact Nat.zero_le 1
  refine ⟨(Timers.ownedBy_tick hone).trans h.timer, ?_⟩
  rw [advances_passTime_eq, Timers.run_eq_tick, Timers.filter_tick_of_nil h.timer, List.filter_nil,
    List.append_nil, h.calls]

end Schedule

end Statescope
