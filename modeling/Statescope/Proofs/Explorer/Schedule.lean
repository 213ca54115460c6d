-- SUMMARY: What each command does to the clock, the timers and the calls to the model.
import Statescope.Proofs.Clock.Delay
import Statescope.Proofs.Explorer.Gestures
import Statescope.Proofs.Explorer.Render

/-!
# Schedules

The schedule of an explorer is what it has told the model so far and what its timers
will tell it. `schedules_perform` says once and for all what a command makes of it.
-/

namespace Statescope

namespace Log

/-- What a command with this reply tells the model, other than to let time pass. -/
def sent? : Command × Reply → Option (String × EngineCall)
  | (.tap container _, .transition (some t)) => some (container, .take t.payload)
  | (.click container t, .flag true) => some (container, .take t.payload)
  | (.undo container, .flag true) => some (container, .undo)
  | _ => none

theorem isAdvance_of_sent {event : Command × Reply} {container : String} {call : EngineCall}
    (h : sent? event = some (container, call)) : call.isAdvance = false := by
  unfold sent? at h
  split at h <;> cases h <;> rfl

end Log

structure Schedule where
  now : Int
  timers : Timers
  calls : List (String × EngineCall)

namespace Schedule

def call (s : Schedule) (container : String) (c : EngineCall) : Schedule :=
  { s with calls := s.calls ++ [(container, c)] }

def cancel (s : Schedule) (container : String) : Schedule :=
  { s with timers := s.timers.cancel container }

def start (s : Schedule) (container : String) (delay : Float) : Schedule :=
  { s with timers := s.timers.start container delay s.now }.call container (.advance delay)

def passTime (s : Schedule) (stop : Int) : Schedule where
  now := stop
  timers := (s.timers.run s.now stop).2
  calls := s.calls ++ (s.timers.run s.now stop).1

end Schedule

namespace Explorer

def schedule (e : Explorer σ) : Schedule := ⟨e.now, e.timers, e.calls⟩

/-! ## Commands -/

/-- Whether a command with this reply has left the schedule alone, as far as that can be
told from the reply. -/
def IsIdle : Command → Reply → Bool
  | .tap .., .transition t => t.isNone
  | .click .., .flag b | .undo .., .flag b | .dispose .., .flag b => !b
  | .render _ _ isFirst _, .rendered (.ok ()) => !isFirst
  | .setAutoAdvance .., _ | .advance _, _ => false
  | _, _ => true

theorem sent?_eq_none_of_isIdle {c : Command} {reply : Reply} (h : IsIdle c reply = true) :
    Log.sent? (c, reply) = none := by
  unfold Log.sent?
  split <;> first | rfl | (rename_i heq; cases heq; cases h)

/-- What a command with this reply makes of the schedule. A gesture that is carried out
stops the timer before it calls. An old diagram ticks while a new one waits, and is
gone before the wait is over. -/
inductive Schedules [BlobStore σ] (e : Explorer σ) : Command → Reply → Schedule → Prop where
  | idle {c : Command} {reply : Reply} (h : IsIdle c reply = true) : Schedules e c reply e.schedule
  | sent {c : Command} {reply : Reply} (container : String) (call : EngineCall)
    (h : Log.sent? (c, reply) = some (container, call)) :
    Schedules e c reply ((e.schedule.cancel container).call container call)
  | start {container : String} (seconds : Option Float) (hlive : e.diagrams.contains container = true)
    (hidle : e.isRunning container = false) :
    Schedules e (.setAutoAdvance container true seconds) (.flag true)
      (e.schedule.start container (clampDelay (seconds.getD e.prefs.autoAdvanceDelay)))
  | restart {container : String} (seconds : Option Float)
    (hlive : e.diagrams.contains container = true) (hrunning : e.isRunning container = true) :
    Schedules e (.setAutoAdvance container true seconds) (.flag true) e.schedule
  | stop {container : String} (seconds : Option Float) (hlive : e.diagrams.contains container = true) :
    Schedules e (.setAutoAdvance container false seconds) (.flag false) (e.schedule.cancel container)
  | absent {container : String} (enabled : Bool) (seconds : Option Float)
    (habsent : e.diagrams.contains container = false) :
    Schedules e (.setAutoAdvance container enabled seconds) (.flag false) e.schedule
  | dispose (container : String) :
    Schedules e (.dispose container) (.flag true) (e.schedule.cancel container)
  | first (container text : String) (now : Option Int) :
    Schedules e (.render container text true now) (.rendered (.ok ()))
      (((e.schedule.passTime (lastTickTime (e.prepareFirst container).1 e.now)).cancel
        container).passTime (e.prepareFirst container).1.time)
  | advance (millis : Nat) :
    Schedules e (.advance millis) .done (e.schedule.passTime (e.now + millis))

/-! ## Switching -/

section Switching

variable {e : Explorer σ} {container : String}

/-- A timer that runs is not started again. -/
theorem setAutoAdvance_of_isRunning (hlive : e.diagrams.contains container = true)
    (hrunning : e.isRunning container = true) (seconds : Option Float) :
    e.setAutoAdvance container true seconds = (true, e) := by
  simp only [setAutoAdvance, hlive, if_true, startTimer, hrunning, Bool.true_or]

/-- Whatever delay is asked for, what is made of it is not refused. -/
theorem setAutoAdvance_of_idle (hlive : e.diagrams.contains container = true)
    (hidle : e.isRunning container = false) (seconds : Option Float) :
    let delay := clampDelay (seconds.getD e.prefs.autoAdvanceDelay)
    e.setAutoAdvance container true seconds = (true,
      { e with timers := e.timers.start container delay e.now }.call container (.advance delay)) := by
  intro delay
  have hstart : e.startTimer container (seconds.getD e.prefs.autoAdvanceDelay)
      = { e with timers := e.timers.start container delay e.now }.call container (.advance delay) := by
    have hduration : isDuration delay = true := isDuration_clampDelay _
    rw [startTimer, hidle, hduration]
    rfl
  simp only [setAutoAdvance, hlive, if_true, hstart]
  exact Prod.ext (Timers.isRunning_start e.timers container delay e.now) rfl

theorem setAutoAdvance_off (hlive : e.diagrams.contains container = true) (seconds : Option Float) :
    e.setAutoAdvance container false seconds = (false, e.stopTimer container) := by
  simp only [setAutoAdvance, hlive, if_true, Bool.false_eq_true, if_false]
  exact Prod.ext (Timers.isRunning_cancel e.timers container) rfl

theorem schedules_setAutoAdvance [BlobStore σ] (e : Explorer σ) (container : String) (enabled : Bool)
    (seconds : Option Float) : Schedules e (.setAutoAdvance container enabled seconds)
      (.flag (e.setAutoAdvance container enabled seconds).1)
      (e.setAutoAdvance container enabled seconds).2.schedule := by
  cases hlive : e.diagrams.contains container with
  | false =>
    simp only [setAutoAdvance, hlive]
    exact .absent enabled seconds hlive
  | true =>
    cases enabled with
    | false =>
      rw [setAutoAdvance_off hlive]
      exact .stop seconds hlive
    | true =>
      cases hrunning : e.isRunning container with
      | true =>
        rw [setAutoAdvance_of_isRunning hlive hrunning]
        exact .restart seconds hlive hrunning
      | false =>
        rw [setAutoAdvance_of_idle hlive hrunning]
        exact .start seconds hlive hrunning

end Switching

variable [BlobStore σ]

/-! ## All commands -/

theorem schedules_render (e : Explorer σ) (container text : String) (isFirst : Bool)
    (now : Option Int) : Schedules e (.render container text isFirst now)
      (.rendered (e.render container text isFirst (now.getD e.now)).1)
      (e.render container text isFirst (now.getD e.now)).2.schedule := by
  cases hresult : (e.render container text isFirst (now.getD e.now)).1 with
  | error cause =>
    rw [reject_of_render hresult]
    exact .idle rfl
  | ok _ =>
    obtain ⟨s, -, haccepts⟩ := accepts_of_render hresult
    generalize (e.render container text isFirst (now.getD e.now)).2 = e' at haccepts
    cases haccepts with
    | next => exact .idle rfl
    | first _ =>
      obtain ⟨_, _, hprepare⟩ := prepareFirst_eq e container
      rw [afterFirst, hprepare]
      exact .first container text now

/-- What a command does to the schedule. -/
theorem schedules_perform (e : Explorer σ) (c : Command) :
    Schedules e c (e.perform c).1 (e.perform c).2.schedule := by
  have harranged (harranges : c.arranges = true) (hidle : IsIdle c (e.perform c).1 = true) :
      Schedules e c (e.perform c).1 (e.perform c).2.schedule := by
    obtain ⟨_, _, _, hperform⟩ := e.perform_of_arranges harranges
    rw [hperform]
    exact .idle hidle
  cases c with
  | render container text isFirst now => exact schedules_render e container text isFirst now
  | attachOracle container channel => exact .idle rfl
  | publishOracle ticket oracle => exact .idle rfl
  | abandonOracle ticket => exact .idle rfl
  | tap container id =>
    simp only [perform, tap]
    split
    · exact .sent container _ rfl
    · exact .idle rfl
  | click container t =>
    simp only [perform, click]
    split
    · exact .sent container (.take t.payload) rfl
    · exact .idle rfl
  | undo container =>
    simp only [perform, undo]
    split
    · exact .sent container .undo rfl
    · exact .idle rfl
  | setAutoAdvance container enabled seconds =>
    exact schedules_setAutoAdvance e container enabled seconds
  | moveNode | selectLayout | exportLayouts | importLayouts => exact harranged rfl rfl
  | tick now => exact .idle rfl
  | advance millis => exact .advance millis
  | dispose container =>
    simp only [perform, Explorer.dispose]
    split
    · exact .dispose container
    · exact .idle rfl

end Explorer

end Statescope
