-- SUMMARY: Ticks are counted by periods: which of them fall into a span of time, and what calls they make.
import Mathlib.Data.List.Nodup
import Statescope.Clock.Timer

/-!
# Ticks

A timer ticks for the `k`-th time at the first whole millisecond at which `k` periods have
passed. When time passes, every timer makes one call for each of its ticks that fall
into the span, and stays what it is.
-/

namespace Statescope

/-! ## One timer -/

namespace Timer

variable {t : Timer} {v w start stop : Int} {k : Nat}

@[simp] theorem ticksBy_started (t : Timer) : t.ticksBy t.started = 0 := by
  have hspan : (wholeMilli t.started - t.started).toNat = 0 := by
    have := wholeMilli_le t.started
    omega
  rw [ticksBy, hspan, Nat.zero_div]

theorem ticksBy_le_ticksBy (h : v ≤ w) : t.ticksBy v ≤ t.ticksBy w := by
  have hwhole := wholeMilli_mono h
  exact Nat.div_le_div_right (by omega)

/-- The `k`-th tick has been made as soon as `k` periods had passed at a whole millisecond. -/
theorem le_ticksBy_iff (hperiod : 0 < t.period) (hk : 0 < k) :
    k ≤ t.ticksBy v ↔ t.started + k * t.period ≤ wholeMilli v := by
  have hpositive : 0 < k * t.period := Nat.mul_pos hk hperiod
  rw [ticksBy, Nat.le_div_iff_mul_le hperiod, ← Int.natCast_mul]
  generalize k * t.period = span at *
  omega

/-- The time of a tick is the first one by which it has been made. -/
theorem tickTime_le_iff (hperiod : 0 < t.period) (hk : 0 < k) :
    t.tickTime k ≤ v ↔ k ≤ t.ticksBy v := by
  rw [le_ticksBy_iff hperiod hk, tickTime]
  unfold wholeMilli nanosPerMilli
  generalize t.started + k * t.period = time
  omega

variable (hperiod : nanosPerMilli ≤ t.period)

include hperiod

/-- There is at most one tick at a moment. -/
theorem ticksBy_le_succ (v : Int) : t.ticksBy v ≤ t.ticksBy (v - 1) + 1 := by
  have hpositive : 0 < t.period := Nat.lt_of_lt_of_le (by decide) hperiod
  have hspan : (wholeMilli v - t.started).toNat ≤ (wholeMilli (v - 1) - t.started).toNat + t.period := by
    unfold wholeMilli nanosPerMilli at *
    omega
  calc t.ticksBy v ≤ ((wholeMilli (v - 1) - t.started).toNat + t.period) / t.period :=
        Nat.div_le_div_right hspan
    _ = t.ticksBy (v - 1) + 1 := Nat.add_div_right _ hpositive

theorem tickTime_eq_iff (hk : 0 < k) :
    t.tickTime k = v ↔ k = t.ticksBy v ∧ t.ticksAt v = true := by
  have hpositive : 0 < t.period := Nat.lt_of_lt_of_le (by decide) hperiod
  have hby := tickTime_le_iff (v := v) hpositive hk
  have hbefore := tickTime_le_iff (v := v - 1) hpositive hk
  have hone := ticksBy_le_succ hperiod v
  rw [ticksAt, decide_eq_true_iff]
  omega

theorem mem_tickTimes :
    v ∈ t.tickTimes start stop ↔ start < v ∧ v ≤ stop ∧ t.ticksAt v = true := by
  have hpositive : 0 < t.period := Nat.lt_of_lt_of_le (by decide) hperiod
  simp only [tickTimes, List.mem_map, List.mem_range'_1]
  constructor
  · rintro ⟨k, hk, htime⟩
    have hstart := tickTime_le_iff (v := start) (k := k) hpositive (by omega)
    have hstop := tickTime_le_iff (v := stop) (k := k) hpositive (by omega)
    have hat := ((tickTime_eq_iff hperiod (by omega)).1 htime).2
    exact ⟨by omega, by omega, hat⟩
  · rintro ⟨hstart, hstop, hat⟩
    have hlow : t.ticksBy start ≤ t.ticksBy (v - 1) := ticksBy_le_ticksBy (by omega)
    have hhigh : t.ticksBy v ≤ t.ticksBy stop := ticksBy_le_ticksBy hstop
    have hstep : t.ticksBy (v - 1) < t.ticksBy v := by simpa [ticksAt] using hat
    exact ⟨t.ticksBy v, by omega, (tickTime_eq_iff hperiod (by omega)).2 ⟨rfl, hat⟩⟩

theorem nodup_tickTimes : (t.tickTimes start stop).Nodup := by
  refine List.Nodup.map_on (fun k hk k' hk' htime => ?_) List.nodup_range'
  rw [List.mem_range'_1] at hk hk'
  have hk := ((tickTime_eq_iff hperiod (by omega)).1 htime).1
  have hk' := ((tickTime_eq_iff hperiod (by omega)).1 (Eq.refl (t.tickTime k'))).1
  exact hk.trans hk'.symm

omit hperiod in
theorem length_tickTimes :
    (t.tickTimes start stop).length = t.ticksBy stop - t.ticksBy start := by
  simp [tickTimes]

end Timer

/-! ## All timers -/

namespace Timers

variable {ts : Timers} {owner : String} {t : Timer} {start stop : Int}

/-- The timers of one owner. -/
def ownedBy (ts : Timers) (owner : String) : Timers := ts.filter (·.owner = owner)

@[simp] theorem mem_ownedBy : t ∈ ts.ownedBy owner ↔ t ∈ ts ∧ t.owner = owner := by
  simp [ownedBy]

@[simp] theorem ownedBy_eq_nil_iff : ts.ownedBy owner = [] ↔ ts.isRunning owner = false := by
  simp [isRunning, ownedBy, List.filter_eq_nil_iff]

@[simp] theorem ownedBy_cancel_self (ts : Timers) (owner : String) : (ts.cancel owner).ownedBy owner = [] := by
  simp [cancel, ownedBy]

@[simp] theorem ownedBy_cancel_of_ne (ts : Timers) {owner owner' : String} (h : owner' ≠ owner) :
    (ts.cancel owner).ownedBy owner' = ts.ownedBy owner' := by
  unfold cancel ownedBy
  rw [List.filter_filter]
  apply List.filter_congr
  intro t _
  by_cases ht : t.owner = owner' <;> simp [ht, h]

theorem ownedBy_start_self {delay : Float} {now : Int} (h : ts.ownedBy owner = []) :
    (ts.start owner delay now).ownedBy owner = [⟨owner, delay, now⟩] := by
  rw [start, ownedBy_eq_nil_iff.1 h]
  simp [ownedBy] at h ⊢
  exact h

@[simp] theorem ownedBy_start_of_ne {delay : Float} {now : Int} {owner' : String} (h : owner' ≠ owner) :
    (ts.start owner delay now).ownedBy owner' = ts.ownedBy owner' := by
  unfold start
  split
  · rfl
  · simp [ownedBy, h.symm]

/-! ## One moment -/

theorem perm_requeue (ts : Timers) (time : Int) : (ts.requeue time).Perm ts :=
  List.perm_append_comm.trans (List.filter_append_perm _ _)

/-- With no more than one timer, an owner does not notice who goes first. -/
theorem ownedBy_requeue (hone : (ts.ownedBy owner).length ≤ 1) (time : Int) :
    (ts.requeue time).ownedBy owner = ts.ownedBy owner := by
  have hperm : ((ts.requeue time).ownedBy owner).Perm (ts.ownedBy owner) :=
    (perm_requeue ts time).filter _
  match hts : ts.ownedBy owner with
  | [] => exact List.perm_nil.1 (hts ▸ hperm)
  | [t] => exact List.perm_singleton.1 (hts ▸ hperm)
  | _ :: _ :: _ =>
    rw [hts] at hone
    simp at hone

theorem filter_callsAt (ts : Timers) (owner : String) (time : Int) :
    (ts.callsAt time).filter (·.1 = owner)
      = ((ts.ownedBy owner).filter (·.ticksAt time)).map fun t => (owner, .advance t.delay) := by
  unfold callsAt ownedBy
  rw [List.filter_map, List.filter_filter, List.filter_filter]
  have hfilter : (fun t : Timer => decide (t.owner = owner) && t.ticksAt time)
      = fun t => t.ticksAt time && decide (t.owner = owner) := by
    funext t
    exact Bool.and_comm _ _
  refine (congrArg (List.map _) (congrArg (List.filter · ts) hfilter)).trans ?_
  apply List.map_congr_left
  intro t ht
  rw [List.mem_filter, Bool.and_eq_true, decide_eq_true_iff] at ht
  rw [ht.2.2]

/-! ## Many moments -/

/-- The calls made and the timers left after some more moments. -/
def tick (acc : List (String × EngineCall) × Timers) (times : List Int) :
    List (String × EngineCall) × Timers :=
  times.foldl (fun (calls, ts) time => (calls ++ ts.callsAt time, ts.requeue time)) acc

theorem run_eq_tick (ts : Timers) (start stop : Int) :
    ts.run start stop = tick ([], ts) (ts.moments start stop) := rfl

variable {calls : List (String × EngineCall)} {times : List Int}

@[simp] theorem mem_tick : t ∈ (tick (calls, ts) times).2 ↔ t ∈ ts := by
  induction times generalizing calls ts with
  | nil => rfl
  | cons time times ih => exact ih.trans (perm_requeue ts time).mem_iff

/-- Timers do nothing but let time pass. -/
theorem isAdvance_of_mem_tick {call : String × EngineCall} (h : call ∈ (tick (calls, ts) times).1) :
    call ∈ calls ∨ call.2.isAdvance = true := by
  induction times generalizing calls ts with
  | nil => exact .inl h
  | cons time times ih =>
    rcases ih h with h | h
    · rw [List.mem_append] at h
      rcases h with h | h
      · exact .inl h
      · obtain ⟨t, -, rfl⟩ := List.mem_map.1 h
        exact .inr rfl
    · exact .inr h

theorem ownedBy_tick (hone : (ts.ownedBy owner).length ≤ 1) :
    (tick (calls, ts) times).2.ownedBy owner = ts.ownedBy owner := by
  induction times generalizing calls ts with
  | nil => rfl
  | cons time times ih =>
    have htime := ownedBy_requeue hone time
    exact (ih (htime ▸ hone)).trans htime

theorem filter_tick_of_nil (h : ts.ownedBy owner = []) :
    (tick (calls, ts) times).1.filter (·.1 = owner) = calls.filter (·.1 = owner) := by
  induction times generalizing calls ts with
  | nil => rfl
  | cons time times ih =>
    have htime : (ts.requeue time).ownedBy owner = [] :=
      (ownedBy_requeue (by rw [h]; decide) time).trans h
    refine (ih htime).trans ?_
    rw [List.filter_append, filter_callsAt, h]
    simp

/-- The only timer of an owner makes a call at each moment at which it ticks. -/
theorem filter_tick_of_singleton (h : ts.ownedBy owner = [t]) :
    (tick (calls, ts) times).1.filter (·.1 = owner) = calls.filter (·.1 = owner)
      ++ List.replicate (times.countP (t.ticksAt ·)) (owner, .advance t.delay) := by
  induction times generalizing calls ts with
  | nil => simp [tick]
  | cons time times ih =>
    have htime : (ts.requeue time).ownedBy owner = [t] :=
      (ownedBy_requeue (by rw [h]; exact Nat.le_refl 1) time).trans h
    refine (ih htime).trans ?_
    rw [List.filter_append, filter_callsAt, h, List.append_assoc]
    cases hat : t.ticksAt time with
    | true =>
      rw [List.countP_cons_of_pos hat, List.replicate_succ]
      simp [hat]
    | false =>
      rw [List.countP_cons_of_neg (by simp [hat])]
      simp [hat]

/-! ## A span of time -/

theorem nodup_moments : (ts.moments start stop).Nodup := by
  have hdistinct := Std.ExtTreeSet.distinct_toList
    (t := Std.ExtTreeSet.ofList (ts.flatMap (·.tickTimes start stop)) compare)
  exact hdistinct.imp fun hne heq => hne (by rw [heq]; exact Std.ReflCmp.compare_self)

theorem mem_moments {time : Int} :
    time ∈ ts.moments start stop ↔ ∃ t ∈ ts, time ∈ t.tickTimes start stop := by
  rw [moments, Std.ExtTreeSet.mem_toList, Std.ExtTreeSet.mem_ofList]
  simp

section Run

variable (hperiod : ∀ t ∈ ts, nanosPerMilli ≤ t.period)

include hperiod

/-- Of the moments, a timer ticks at as many as it has ticks in the span. -/
theorem countP_moments (ht : t ∈ ts) :
    (ts.moments start stop).countP (t.ticksAt ·) = t.ticksBy stop - t.ticksBy start := by
  -- Neither list repeats a moment, and they have the same ones in them.
  rw [List.countP_eq_length_filter, ← Timer.length_tickTimes]
  refine List.Perm.length_eq ((List.perm_ext_iff_of_nodup (nodup_moments.filter _)
    (Timer.nodup_tickTimes (hperiod t ht))).2 fun time => ?_)
  rw [List.mem_filter, mem_moments, Timer.mem_tickTimes (hperiod t ht)]
  constructor
  · rintro ⟨⟨t', ht', htime⟩, hat⟩
    have hspan := (Timer.mem_tickTimes (hperiod t' ht')).1 htime
    exact ⟨hspan.1, hspan.2.1, hat⟩
  · rintro ⟨hstart, hstop, hat⟩
    exact ⟨⟨t, ht, (Timer.mem_tickTimes (hperiod t ht)).2 ⟨hstart, hstop, hat⟩⟩, hat⟩

/-- In a span of time, the only timer of an owner makes a call for each of its ticks. -/
theorem filter_run_of_singleton (h : ts.ownedBy owner = [t]) :
    (ts.run start stop).1.filter (·.1 = owner)
      = List.replicate (t.ticksBy stop - t.ticksBy start) (owner, .advance t.delay) := by
  have ht : t ∈ ts := (mem_ownedBy.1 (h ▸ List.mem_singleton_self t)).1
  rw [run_eq_tick, filter_tick_of_singleton h, countP_moments hperiod ht, List.filter_nil,
    List.nil_append]

end Run

end Timers

end Statescope
