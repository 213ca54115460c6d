-- SUMMARY: In each container an explorer has an auto-advance of its own, whatever happens in the others.
import Statescope.Clock.AutoAdvance
import Statescope.Proofs.Explorer.AutoAdvance

/-!
# Single timers

All timers of an explorer share one clock and one list of calls. `AutoAdvance.Mirrors`
ties one of them to an `AutoAdvance`, which knows of no other. Every command is for it a
few starts, stops and advances (`timerOperations`), and after any commands it has made the
calls that the explorer has made for its container (`mirrors_run`).
-/

namespace Statescope

/-! ## Timers of one owner -/

namespace Timers

variable {ts : Timers} {owner : String}

@[simp] theorem ownedBy_ownedBy (ts : Timers) (owner : String) :
    (ts.ownedBy owner).ownedBy owner = ts.ownedBy owner := by
  simp [ownedBy, List.filter_filter]

/-- No call is made but for the owner of a timer. -/
theorem exists_owner_of_mem_tick {calls : List (String × EngineCall)} {times : List Int}
    {c : String × EngineCall} (h : c ∈ (tick (calls, ts) times).1) :
    c ∈ calls ∨ ∃ t ∈ ts, t.owner = c.1 := by
  induction times generalizing calls ts with
  | nil => exact .inl h
  | cons time times ih =>
    rcases ih h with h | ⟨t, ht, howner⟩
    · rcases List.mem_append.1 h with h | h
      · exact .inl h
      · obtain ⟨t, ht, rfl⟩ := List.mem_map.1 h
        exact .inr ⟨t, List.mem_of_mem_filter ht, rfl⟩
    · exact .inr ⟨t, (perm_requeue ts time).mem_iff.1 ht, howner⟩

variable (hone : (ts.ownedBy owner).length ≤ 1)

include hone

theorem snd_run_ownedBy (start stop : Int) :
    ((ts.ownedBy owner).run start stop).2 = (ts.run start stop).2.ownedBy owner := by
  have hself := ts.ownedBy_ownedBy owner
  have hall : ((ts.ownedBy owner).run start stop).2.ownedBy owner
      = ((ts.ownedBy owner).run start stop).2 := by
    refine List.filter_eq_self.2 fun t ht => ?_
    rw [decide_eq_true_iff]
    exact (mem_ownedBy.1 (mem_tick.1 ht)).2
  calc ((ts.ownedBy owner).run start stop).2
      = ((ts.ownedBy owner).run start stop).2.ownedBy owner := hall.symm
    _ = (ts.ownedBy owner).ownedBy owner := ownedBy_tick (hself.symm ▸ hone)
    _ = ts.ownedBy owner := hself
    _ = (ts.run start stop).2.ownedBy owner := (ownedBy_tick hone).symm

/-- The calls made for an owner are those that its timer would make alone. -/
theorem fst_run_ownedBy (hperiod : ∀ t ∈ ts, nanosPerMilli ≤ t.period) (start stop : Int) :
    ((ts.ownedBy owner).run start stop).1 = (ts.run start stop).1.filter (·.1 = owner) := by
  have hself := ts.ownedBy_ownedBy owner
  have hall : ((ts.ownedBy owner).run start stop).1.filter (·.1 = owner)
      = ((ts.ownedBy owner).run start stop).1 := by
    refine List.filter_eq_self.2 fun c hc => ?_
    rcases exists_owner_of_mem_tick hc with hc | ⟨t, ht, howner⟩
    · cases hc
    · rw [decide_eq_true_iff, ← howner, (mem_ownedBy.1 ht).2]
  rw [← hall]
  match hts : ts.ownedBy owner with
  | [] =>
    rw [hts] at hself
    rw [run_eq_tick, run_eq_tick, filter_tick_of_nil hself, filter_tick_of_nil hts]
  | [t] =>
    rw [hts] at hself
    have hperiod' : ∀ t' ∈ [t], nanosPerMilli ≤ t'.period := fun t' ht' =>
      hperiod t' (mem_ownedBy.1 (hts ▸ ht')).1
    rw [filter_run_of_singleton hperiod' hself, filter_run_of_singleton hperiod hts]
  | _ :: _ :: _ =>
    rw [hts] at hone
    simp at hone

end Timers

/-! ## Operations -/

namespace AutoAdvance

inductive Operation where
  | start (seconds : Float)
  | stop
  | advance (span : Nat)

def perform (a : AutoAdvance) : Operation → AutoAdvance
  | .start seconds => (a.start seconds).2
  | .stop => a.stop.2
  | .advance span => a.advance span

def run (a : AutoAdvance) (operations : List Operation) : AutoAdvance := operations.foldl perform a

@[simp] theorem owner_start (a : AutoAdvance) (seconds : Float) :
    (a.start seconds).2.owner = a.owner := by
  simp only [start]
  split <;> rfl

theorem run_append (a : AutoAdvance) (operations operations' : List Operation) :
    a.run (operations ++ operations') = (a.run operations).run operations' := List.foldl_append

@[simp] theorem owner_run (a : AutoAdvance) (operations : List Operation) :
    (a.run operations).owner = a.owner := by
  induction operations generalizing a with
  | nil => rfl
  | cons operation operations ih =>
    refine (ih _).trans ?_
    cases operation with
    | start seconds => exact a.owner_start seconds
    | stop | advance => rfl

/-! ## One operation -/

/-- The auto-advance is what there is in the schedule for its owner. -/
structure Mirrors (a : AutoAdvance) (s : Schedule) : Prop where
  scheduler : a.scheduler = true
  now : a.now = s.now
  timers : a.timers = s.timers.ownedBy a.owner
  calls : a.calls.map (a.owner, ·) = s.advances a.owner

namespace Mirrors

variable {a : AutoAdvance} {s : Schedule} {container : String}

theorem isRunning_eq (h : a.Mirrors s) : a.isRunning = s.timers.isRunning a.owner := by
  rw [isRunning, h.timers, Bool.eq_iff_iff, ← Bool.not_eq_false, ← Bool.not_eq_false,
    ← Timers.ownedBy_eq_nil_iff, ← Timers.ownedBy_eq_nil_iff, Timers.ownedBy_ownedBy]

theorem start (h : a.Mirrors s) (hidle : s.timers.isRunning a.owner = false) (seconds : Float) :
    (a.start seconds).2.Mirrors (s.start a.owner (clampDelay seconds)) := by
  have hnot : a.isRunning = false := h.isRunning_eq.trans hidle
  have hstart : (a.start seconds).2 = { a with
      timers := a.timers.start a.owner (clampDelay seconds) a.now
      delay := clampDelay seconds
      calls := a.calls ++ [.advance (clampDelay seconds)] } := by
    simp only [AutoAdvance.start, hnot, h.scheduler, isDuration_clampDelay, Bool.not_true,
      Bool.or_self, Bool.false_eq_true, if_false]
  rw [hstart]
  refine ⟨h.scheduler, h.now, ?_, ?_⟩
  · have hnone := Timers.ownedBy_eq_nil_iff.2 hidle
    change a.timers.start a.owner _ a.now = (s.timers.start a.owner _ s.now).ownedBy a.owner
    rw [Timers.ownedBy_start_self hnone, h.timers, hnone, h.now]
    rfl
  · simp only [List.map_append, h.calls]
    simp [Schedule.start, Schedule.call, Schedule.advances, EngineCall.isAdvance]

theorem start_of_isRunning (h : a.Mirrors s) (hrunning : s.timers.isRunning a.owner = true)
    (seconds : Float) : (a.start seconds).2 = a := by
  have hruns : a.isRunning = true := h.isRunning_eq.trans hrunning
  simp only [AutoAdvance.start, hruns, Bool.true_or, if_true]

/-- To stop a timer that does not run changes nothing. -/
theorem stop_of_idle (h : a.Mirrors s) (hidle : s.timers.isRunning a.owner = false) :
    a.stop.2.Mirrors s := by
  refine ⟨h.scheduler, h.now, ?_, h.calls⟩
  have hnone := h.timers.trans (Timers.ownedBy_eq_nil_iff.2 hidle)
  exact (congrArg (Timers.cancel · a.owner) hnone).trans (Timers.ownedBy_eq_nil_iff.2 hidle).symm

theorem stop (h : a.Mirrors s) : a.stop.2.Mirrors (s.cancel a.owner) := by
  refine ⟨h.scheduler, h.now, ?_, h.calls⟩
  change a.timers.cancel a.owner = (s.timers.cancel a.owner).ownedBy a.owner
  rw [Timers.ownedBy_cancel_self, h.timers]
  simp [Timers.cancel, Timers.ownedBy]

theorem advance (h : a.Mirrors s) (hs : s.Sound) {span : Nat} {stop : Int}
    (hstop : s.now + span = stop) : (a.advance span).Mirrors (s.passTime stop) := by
  have hone := hs.one a.owner
  have hcalls := Timers.fst_run_ownedBy hone hs.nanosPerMilli_le_period s.now stop
  refine ⟨h.scheduler, ?_, ?_, ?_⟩
  · exact (congrArg (· + (span : Int)) h.now).trans hstop
  · simp only [AutoAdvance.advance, h.now, hstop, h.timers]
    exact Timers.snd_run_ownedBy hone s.now stop
  · simp only [AutoAdvance.advance, h.now, hstop, h.timers, hcalls, List.map_append, h.calls]
    rw [Schedule.advances_passTime_eq, List.map_map]
    congr 1
    refine (List.map_congr_left fun c hc => ?_).trans (List.map_id _)
    rw [List.mem_filter, decide_eq_true_iff] at hc
    exact Prod.ext hc.2.symm rfl

theorem advance_to (h : a.Mirrors s) (hs : s.Sound) {stop : Int} (hstop : s.now ≤ stop) :
    (a.advance (stop - s.now).toNat).Mirrors (s.passTime stop) :=
  h.advance hs (by omega)

/-! What happens for other containers -/

theorem cancel_of_ne (h : a.Mirrors s) (hc : container ≠ a.owner) : a.Mirrors (s.cancel container) :=
  ⟨h.scheduler, h.now, h.timers.trans (Timers.ownedBy_cancel_of_ne _ hc.symm).symm, h.calls⟩

theorem call_of_not_isAdvance (h : a.Mirrors s) {c : EngineCall} (hc : c.isAdvance = false)
    (container : String) : a.Mirrors (s.call container c) :=
  ⟨h.scheduler, h.now, h.timers,
    h.calls.trans (Schedule.advances_call_of_not_isAdvance hc container).symm⟩

theorem start_of_ne (h : a.Mirrors s) (hc : container ≠ a.owner) (delay : Float) :
    a.Mirrors (s.start container delay) :=
  ⟨h.scheduler, h.now, h.timers.trans (Timers.ownedBy_start_of_ne hc.symm).symm,
    h.calls.trans (Schedule.advances_call_of_ne hc _).symm⟩

end Mirrors

end AutoAdvance

namespace Explorer

open AutoAdvance

variable [BlobStore σ] {e : Explorer σ} {a : AutoAdvance}

/-! ## One command -/

/-- What a command with this reply does to the timer of a container. While a new diagram
waits, the clock goes on, and the timer of the old one is stopped in between. -/
def timerOperations (e : Explorer σ) (container : String) : Command × Reply → List Operation
  | (.advance span, _) => [.advance span]
  | (.setAutoAdvance c true seconds, .flag true) =>
    if c = container then [.start (seconds.getD e.prefs.autoAdvanceDelay)] else []
  | (.render c _ true _, .rendered (.ok ())) =>
    let wait := (e.prepareFirst c).1
    let last := lastTickTime wait e.now
    .advance (last - e.now).toNat :: (if c = container then [.stop] else [])
      ++ [.advance (wait.time - last).toNat]
  | event => if Log.cancels container event then [.stop] else []

theorem timerOperations_of_isIdle {event : Command × Reply} {container : String}
    (h : IsIdle event.1 event.2 = true) : e.timerOperations container event = [] := by
  unfold timerOperations
  split <;> try cases h
  rw [cancels_eq_false_of_isIdle h, if_neg Bool.false_ne_true]

theorem timerOperations_of_sent {event : Command × Reply} {container container' : String}
    {call : EngineCall} (h : Log.sent? event = some (container, call)) :
    e.timerOperations container' event = if container = container' then [.stop] else [] := by
  unfold timerOperations
  split <;> try cases h
  rw [Log.cancels_of_sent h]
  simp only [decide_eq_true_eq]

/-- A stop for one container is a stop for its timer alone. -/
theorem mirrors_cancel {s : Schedule} (h : a.Mirrors s) (container : String) :
    (a.run (if container = a.owner then [.stop] else [])).Mirrors (s.cancel container) := by
  split
  · rename_i hc
    exact hc ▸ h.stop
  · rename_i hc
    exact h.cancel_of_ne hc

theorem mirrors_perform (h : a.Mirrors e.schedule) (he : e.Steady) (c : Command) :
    (a.run (e.timerOperations a.owner (c, (e.perform c).1))).Mirrors (e.perform c).2.schedule := by
  have hschedules := schedules_perform e c
  generalize (e.perform c).1 = reply at hschedules
  generalize (e.perform c).2.schedule = s at hschedules
  cases hschedules with
  | idle hidle =>
    rw [timerOperations_of_isIdle hidle]
    exact h
  | sent container call hsent =>
    rw [timerOperations_of_sent hsent]
    exact (mirrors_cancel h container).call_of_not_isAdvance (Log.isAdvance_of_sent hsent) container
  | @start container seconds hlive hidle =>
    simp only [timerOperations]
    split
    · rename_i hc
      subst hc
      exact h.start hidle _
    · rename_i hc
      exact h.start_of_ne hc _
  | @restart container seconds hlive hrunning =>
    simp only [timerOperations]
    split
    · rename_i hc
      subst hc
      rw [AutoAdvance.run, List.foldl_cons, AutoAdvance.perform, h.start_of_isRunning hrunning]
      exact h
    · exact h
  | @stop container seconds hlive =>
    have hcancels := mirrors_cancel h container
    simpa [timerOperations, Log.cancels] using hcancels
  | @absent container enabled seconds habsent =>
    -- Without a diagram there is no timer to stop.
    have hidle : e.isRunning container = false := by
      by_contra hrunning
      rw [(he.running container (Bool.not_eq_false _ ▸ hrunning)).1] at habsent
      cases habsent
    simp only [timerOperations]
    split
    · rename_i hcancels
      have hc : container = a.owner := by
        have hboth : container = a.owner ∧ enabled = false := by simpa [Log.cancels] using hcancels
        exact hboth.1
      exact h.stop_of_idle (hc ▸ hidle)
    · exact h
  | dispose container =>
    have hcancels := mirrors_cancel h container
    simpa [timerOperations, Log.cancels] using hcancels
  | first container text now =>
    obtain ⟨hlast, hwait⟩ := passTime_prepareFirst_bounds e container
    have hticked := h.advance_to he.sound hlast
    have hs := (he.sound.passTime hlast).cancel container
    have hdone := (mirrors_cancel hticked container).advance_to hs hwait
    simp only [timerOperations, List.cons_append, AutoAdvance.run, List.foldl_cons, List.foldl_append,
      List.foldl_nil]
    exact hdone
  | advance span => exact h.advance he.sound rfl

/-! ## Many commands -/

/-- What commands do to the timer of a container. -/
def timerOperationsOf (e : Explorer σ) (container : String) : List Command → List Operation
  | [] => []
  | c :: cs => e.timerOperations container (c, (e.perform c).1)
      ++ (e.perform c).2.timerOperationsOf container cs

/-- Whatever an explorer is told to do, in each container its timer is started and stopped,
and calls the model, like an auto-advance of its own. -/
theorem mirrors_run (h : a.Mirrors e.schedule) (he : e.Steady) (cs : List Command) :
    (a.run (e.timerOperationsOf a.owner cs)).Mirrors (e.run cs).schedule := by
  induction cs generalizing a e with
  | nil => exact h
  | cons c cs ih =>
    have hfirst := mirrors_perform h he c
    have hrest := ih hfirst (he.perform c)
    rw [owner_run] at hrest
    rw [timerOperationsOf, run_append]
    exact hrest

theorem mirrors_run_initial (store : LayoutStore σ) (prefs : Prefs) (host : Host) (now : Int)
    (container : String) (cs : List Command) :
    let e := initial store prefs host now
    (({ owner := container, now } : AutoAdvance).run (e.timerOperationsOf container cs)).Mirrors
      (e.run cs).schedule := by
  intro e
  have hstart : ({ owner := container, now } : AutoAdvance).Mirrors e.schedule :=
    ⟨rfl, rfl, rfl, rfl⟩
  exact mirrors_run hstart (steady_initial store prefs host now) cs

end Explorer

end Statescope
