-- SUMMARY: Containers do not interfere: a command leaves all other containers alone, and what happens in one does not depend on the others.
import Statescope.Proofs.Clock.Ticks
import Statescope.Proofs.Explorer.Diagrams
import Statescope.Proofs.Explorer.Schedule

/-!
# Isolation

A command that is addressed to a container touches no diagram, timer or oracle of another
one. Snapshots that continue a diagram, gestures and disposals go by what there is to see in
their container and by nothing else, so that it does not matter how the commands for several
containers are interleaved.
-/

namespace Statescope

/-! ## Addresses -/

namespace Command

/-- The container that a command is addressed to. -/
def container? : Command → Option String
  | .render container .. | .attachOracle container _ | .tap container _ | .click container _
  | .undo container | .setAutoAdvance container .. | .moveNode container .. | .selectLayout container _
  | .exportLayouts container | .importLayouts container _ | .dispose container => some container
  | .publishOracle .. | .abandonOracle _ | .tick _ | .advance _ => none

/-- Whether a command is about the diagram of its container alone: it neither takes time nor
uses the store. -/
def isLocal : Command → Bool
  | .render _ _ isFirst _ => !isFirst
  | .tap .. | .click .. | .undo _ | .selectLayout .. | .dispose _ => true
  | _ => false

end Command

theorem Log.container?_of_sent {c : Command} {reply : Reply} {container : String} {call : EngineCall}
    (h : sent? (c, reply) = some (container, call)) : c.container? = some container := by
  unfold sent? at h
  split at h
  case h_4 => cases h
  all_goals
    rename_i heq
    cases heq
    cases h
    rfl

theorem Timers.mem_cancel_of_ne {ts : Timers} {t : Timer} {owner : String} (h : t.owner ≠ owner) :
    t ∈ ts.cancel owner ↔ t ∈ ts := by
  simp [cancel, h]

theorem Timers.mem_start_of_ne {ts : Timers} {t : Timer} {owner : String} (h : t.owner ≠ owner)
    (delay : Float) (now : Int) : t ∈ ts.start owner delay now ↔ t ∈ ts := by
  unfold start
  split
  · rfl
  · rw [List.mem_append, List.mem_singleton]
    exact or_iff_left fun heq => h (heq ▸ rfl)

namespace Explorer

variable {e e' : Explorer σ} {c : Command} {reply : Reply} {a b : String}

/-! ## Other diagrams and oracles -/

/-- No diagram but that of one container has changed, and no oracle but the one that it
waits for. -/
structure OnlyIn (a : String) (e e' : Explorer σ) : Prop where
  diagram (b : String) (hb : b ≠ a) : e'.diagrams[b]? = e.diagrams[b]?
  oracle (b : String) (hb : b ≠ a) : e'.pending[b]? = e.pending[b]?

theorem OnlyIn.of_eq (hdiagrams : e'.diagrams = e.diagrams) (hpending : e'.pending = e.pending) :
    OnlyIn a e e' where
  diagram _ _ := hdiagrams ▸ rfl
  oracle _ _ := hpending ▸ rfl

theorem OnlyIn.of_insert {d : Diagram} (hdiagrams : e'.diagrams = e.diagrams.insert a d)
    (hpending : e'.pending = e.pending) : OnlyIn a e e' where
  diagram _ hb := hdiagrams ▸ Dict.getElem?_insert_of_ne _ (Ne.symm hb) _
  oracle _ _ := hpending ▸ rfl

theorem onlyIn_selectLayout (e : Explorer σ) (a name : String) :
    OnlyIn a e (e.selectLayout a name).2 := by
  unfold selectLayout
  split
  · exact .of_eq rfl rfl
  · split
    · exact .of_insert rfl rfl
    · exact .of_eq rfl rfl

theorem onlyIn_dispose (e : Explorer σ) (a : String) : OnlyIn a e (e.dispose a).2 := by
  unfold dispose
  split
  · exact ⟨fun b hb => Dict.getElem?_erase_of_ne _ (Ne.symm hb), fun _ _ => rfl⟩
  · exact .of_eq rfl rfl

theorem onlyIn_attachOracle (e : Explorer σ) (a : String) (channel : Channel) :
    OnlyIn a e (e.attachOracle a channel) :=
  ⟨fun _ _ => rfl, fun _ hb => Dict.getElem?_insert_of_ne _ (Ne.symm hb) _⟩

variable [BlobStore σ]

theorem onlyIn_moveNode (e : Explorer σ) (a id : String) (p : Position) :
    OnlyIn a e (e.moveNode a id p) := by
  unfold moveNode
  split
  · exact .of_eq rfl rfl
  · simp only
    split <;> exact .of_insert rfl rfl

theorem onlyIn_importLayouts (e : Explorer σ) (a text : String) :
    OnlyIn a e (e.importLayouts a text).2 := by
  unfold importLayouts
  split
  · exact .of_eq rfl rfl
  · simp only
    split
    · simp only
      split <;> exact .of_insert rfl rfl
    · exact .of_eq rfl rfl

theorem onlyIn_render (e : Explorer σ) (a text : String) (isFirst : Bool) (now : Int) :
    OnlyIn a e (e.render a text isFirst now).2 := by
  cases hresult : (e.render a text isFirst now).1 with
  | error cause =>
    obtain ⟨notices, diagrams, hrender, hdiagrams⟩ := render_atomic hresult
    rw [hrender]
    exact ⟨fun b hb => (hdiagrams b).trans (if_neg hb), fun _ _ => rfl⟩
  | ok _ =>
    obtain ⟨s, -, haccepts⟩ := accepts_of_render hresult
    generalize (e.render a text isFirst now).2 = e' at haccepts
    cases haccepts with
    | next => exact .of_insert rfl rfl
    | @first drawing restored store _ =>
      constructor
      · intro b hb
        simp [Ne.symm hb]
      · intro b hb
        simp [Ne.symm hb]

/-- A command touches no diagram and no oracle but those of the container that it is
addressed to. -/
theorem onlyIn_perform (e : Explorer σ) (hto : c.container? = some a) :
    OnlyIn a e (e.perform c).2 := by
  have hdriven (hdrives : c.drives = true) : OnlyIn a e (e.perform c).2 := by
    obtain ⟨_, _, hperform⟩ := e.perform_of_drives hdrives
    rw [hperform]
    exact .of_eq rfl rfl
  cases c with
  | publishOracle | abandonOracle | tick | advance => cases hto
  | render container text isFirst now =>
    cases hto
    exact e.onlyIn_render a text isFirst _
  | attachOracle container channel =>
    cases hto
    exact e.onlyIn_attachOracle a channel
  | tap | click | undo | setAutoAdvance => exact hdriven rfl
  | moveNode container id p =>
    cases hto
    exact e.onlyIn_moveNode a id p
  | selectLayout container name =>
    cases hto
    exact e.onlyIn_selectLayout a name
  | exportLayouts container =>
    obtain ⟨_, _, hexport⟩ := e.exportLayouts_eq container
    rw [perform, hexport]
    exact .of_eq rfl rfl
  | importLayouts container text =>
    cases hto
    exact e.onlyIn_importLayouts a text
  | dispose container =>
    cases hto
    exact e.onlyIn_dispose a

/-! ## Other timers -/

theorem Schedules.mem_timers_iff {s : Schedule} (h : Schedules e c reply s)
    (hto : c.container? = some a) {t : Timer} (ht : t.owner ≠ a) : t ∈ s.timers ↔ t ∈ e.timers := by
  cases h with
  | idle | restart | absent => rfl
  | sent container call h =>
    cases (Log.container?_of_sent h).symm.trans hto
    exact Timers.mem_cancel_of_ne ht
  | stop | dispose =>
    cases hto
    exact Timers.mem_cancel_of_ne ht
  | start seconds hlive hidle =>
    cases hto
    exact Timers.mem_start_of_ne ht _ _
  | first =>
    cases hto
    exact Timers.mem_tick.trans ((Timers.mem_cancel_of_ne ht).trans Timers.mem_tick)
  | advance => cases hto

theorem isRunning_perform_of_ne (e : Explorer σ) (hto : c.container? = some a) (hb : b ≠ a) :
    (e.perform c).2.isRunning b = e.isRunning b := by
  rw [Bool.eq_iff_iff, isRunning, isRunning, Timers.isRunning, Timers.isRunning, List.any_eq_true,
    List.any_eq_true]
  refine exists_congr fun t => and_congr_left fun ht => ?_
  have howner : t.owner ≠ a := fun heq => hb ((of_decide_eq_true ht).symm.trans heq)
  exact (schedules_perform e c).mem_timers_iff hto howner

/-! ## What there is to see in one container -/

/-- What there is to see of an explorer in one container. -/
structure View where
  diagram : Option Diagram
  running : Bool
  calls : List (String × EngineCall)
  now : Int

def view (e : Explorer σ) (a : String) : View where
  diagram := e.diagrams[a]?
  running := e.isRunning a
  calls := e.calls.filter (·.1 = a)
  now := e.now

/-- A local command takes no time and makes no call but the one that can be told from its
reply. Its timer runs on if nothing has happened. -/
theorem Schedules.of_isLocal {s : Schedule} (h : Schedules e c reply s) (hlocal : c.isLocal = true)
    (hto : c.container? = some a) :
    s.now = e.now ∧ s.calls = e.calls ++ (Log.sent? (c, reply)).toList ∧
      s.timers.isRunning a = (e.isRunning a && IsIdle c reply) := by
  cases h with
  | idle hidle =>
    refine ⟨rfl, ?_, ?_⟩
    · rw [sent?_eq_none_of_isIdle hidle]
      exact (List.append_nil _).symm
    · rw [hidle, Bool.and_true]
      rfl
  | sent container call hsent =>
    cases (Log.container?_of_sent hsent).symm.trans hto
    have hidle : IsIdle c reply = false := by
      by_contra hidle
      rw [sent?_eq_none_of_isIdle (Bool.not_eq_false _ ▸ hidle)] at hsent
      cases hsent
    refine ⟨rfl, ?_, ?_⟩
    · rw [hsent]
      rfl
    · rw [hidle, Bool.and_false]
      exact Timers.isRunning_cancel e.timers a
  | dispose =>
    cases hto
    refine ⟨rfl, (List.append_nil _).symm, ?_⟩
    rw [IsIdle, Bool.not_true, Bool.and_false]
    exact Timers.isRunning_cancel e.timers a
  | start | restart | stop | absent | first | advance => cases hlocal

omit [BlobStore σ] in
theorem renderNext_congr {e e' : Explorer σ} (hd : e.diagrams[a]? = e'.diagrams[a]?) (text : String)
    (now : Int) : (e.renderNext a text now).1 = (e'.renderNext a text now).1 ∧
      (e.renderNext a text now).2.diagrams[a]? = (e'.renderNext a text now).2.diagrams[a]? := by
  unfold renderNext
  rw [hd]
  cases e'.diagrams[a]? with
  | none => exact ⟨rfl, hd⟩
  | some d =>
    cases Snapshot.read text with
    | error cause => exact ⟨rfl, hd⟩
    | ok snapshot =>
      cases hupdate : d.drawing.update snapshot now with
      | error cause =>
        simp only [hupdate, true_and]
        exact hd
      | ok drawing => simp only [hupdate, Dict.getElem?_insert_self, and_self]

omit [BlobStore σ] in
@[simp] theorem host_renderNext (e : Explorer σ) (a text : String) (now : Int) :
    (e.renderNext a text now).2.host = e.host := by
  unfold renderNext
  split
  · rfl
  · split
    · rfl
    · split <;> rfl

theorem render_later_congr {e e' : Explorer σ} (hd : e.diagrams[a]? = e'.diagrams[a]?)
    (hhost : e.host = e'.host) (text : String) (now : Int) :
    (e.render a text false now).1 = (e'.render a text false now).1 ∧
      (e.render a text false now).2.diagrams[a]? = (e'.render a text false now).2.diagrams[a]? := by
  obtain ⟨hresult, hdiagram⟩ := renderNext_congr hd text now
  simp only [render, Bool.false_eq_true, if_false, hresult]
  split
  · exact ⟨rfl, hdiagram⟩
  · simp only [reject, notify, Dict.getElem?_modify, if_true, hdiagram, host_renderNext, hhost,
      and_self]

/-- What a local command answers, and what it makes of its diagram, depends on nothing but
the diagram, the clock and the host. -/
theorem perform_congr {e e' : Explorer σ} (hlocal : c.isLocal = true) (hto : c.container? = some a)
    (hd : e.diagrams[a]? = e'.diagrams[a]?) (hnow : e.now = e'.now) (hhost : e.host = e'.host) :
    (e.perform c).1 = (e'.perform c).1 ∧
      (e.perform c).2.diagrams[a]? = (e'.perform c).2.diagrams[a]? := by
  cases c with
  | attachOracle | publishOracle | abandonOracle | setAutoAdvance | moveNode | exportLayouts
  | importLayouts | tick | advance => cases hlocal
  | tap container id =>
    cases hto
    simp only [perform, tap, hd]
    split <;> exact ⟨rfl, hd⟩
  | click container t =>
    cases hto
    simp only [perform, click, hd]
    split <;> exact ⟨rfl, hd⟩
  | undo container =>
    cases hto
    simp only [perform, undo, hd]
    split <;> exact ⟨rfl, hd⟩
  | selectLayout container name =>
    cases hto
    simp only [perform, selectLayout, hd]
    split
    · exact ⟨rfl, hd⟩
    · split
      · simp [withDrawing]
      · exact ⟨rfl, hd⟩
  | dispose container =>
    cases hto
    simp only [perform, Explorer.dispose, ← Std.ExtTreeMap.isSome_getElem?_eq_contains, hd]
    split
    · simp
    · exact ⟨rfl, hd⟩
  | render container text isFirst now =>
    cases hto
    cases isFirst with
    | true => cases hlocal
    | false =>
      simp only [perform, hnow]
      exact (render_later_congr hd hhost text _).imp_left (congrArg Reply.rendered)

theorem filter_calls_perform (e : Explorer σ) (hlocal : c.isLocal = true)
    (hto : c.container? = some a) (b : String) :
    (e.perform c).2.calls.filter (·.1 = b)
      = e.calls.filter (·.1 = b) ++ (Log.sent? (c, (e.perform c).1)).toList.filter (·.1 = b) :=
  (congrArg _ ((schedules_perform e c).of_isLocal hlocal hto).2.1).trans (List.filter_append _ _)

/-- A local command leaves what there is to see in other containers as it was. -/
theorem view_perform_of_ne (e : Explorer σ) (hlocal : c.isLocal = true)
    (hto : c.container? = some a) (hb : b ≠ a) : (e.perform c).2.view b = e.view b := by
  have hnow : (e.perform c).2.now = e.now := ((schedules_perform e c).of_isLocal hlocal hto).1
  have hother : (Log.sent? (c, (e.perform c).1)).toList.filter (·.1 = b) = [] := by
    cases hsent : Log.sent? (c, (e.perform c).1) with
    | none => rfl
    | some call =>
      cases (Log.container?_of_sent hsent).symm.trans hto
      simp [Ne.symm hb]
  rw [view, (e.onlyIn_perform hto).diagram b hb, e.isRunning_perform_of_ne hto hb,
    filter_calls_perform e hlocal hto, hother, List.append_nil, hnow]
  rfl

/-- Where there is the same to see on the same host, a local command answers the same and
leaves the same to see. -/
theorem view_perform_congr {e e' : Explorer σ} (hlocal : c.isLocal = true)
    (hto : c.container? = some a) (h : e.view a = e'.view a) (hhost : e.host = e'.host) :
    (e.perform c).1 = (e'.perform c).1 ∧ (e.perform c).2.view a = (e'.perform c).2.view a := by
  rw [view, view, View.mk.injEq] at h
  obtain ⟨hd, hrunning, hcallsBefore, hnowBefore⟩ := h
  obtain ⟨hreply, hdiagram⟩ := perform_congr hlocal hto hd hnowBefore hhost
  obtain ⟨hnow, -, hruns⟩ := (schedules_perform e c).of_isLocal hlocal hto
  obtain ⟨hnow', -, hruns'⟩ := (schedules_perform e' c).of_isLocal hlocal hto
  refine ⟨hreply, ?_⟩
  rw [view, view, View.mk.injEq]
  refine ⟨hdiagram, ?_, ?_, hnow.trans (hnowBefore.trans hnow'.symm)⟩
  · calc (e.perform c).2.isRunning a
        = (e.isRunning a && IsIdle c (e.perform c).1) := hruns
      _ = (e'.isRunning a && IsIdle c (e'.perform c).1) := by rw [hrunning, hreply]
      _ = (e'.perform c).2.isRunning a := hruns'.symm
  · rw [filter_calls_perform e hlocal hto, filter_calls_perform e' hlocal hto, hcallsBefore, hreply]

theorem exists_container_of_isLocal (h : c.isLocal = true) : ∃ a, c.container? = some a := by
  cases c with
  | render | tap | click | undo | selectLayout | dispose => exact ⟨_, rfl⟩
  | _ => cases h

/-- In a container there is the same to see as if only the commands for it had been given. -/
theorem view_run_filter {cs : List Command} (hlocal : ∀ c ∈ cs, c.isLocal = true)
    {e e' : Explorer σ} (h : e.view a = e'.view a) (hhost : e.host = e'.host) :
    (e.run cs).view a = (e'.run (cs.filter (·.container? = some a))).view a ∧
      (e.transcript cs).filter (·.1.container? = some a)
        = e'.transcript (cs.filter (·.container? = some a)) := by
  induction cs generalizing e e' with
  | nil => exact ⟨h, rfl⟩
  | cons c cs ih =>
    rw [List.forall_mem_cons] at hlocal
    obtain ⟨b, hto⟩ := exists_container_of_isLocal hlocal.1
    have hkept := (settings_perform e c).2
    by_cases hb : b = a
    · subst hb
      obtain ⟨hreply, hview⟩ := view_perform_congr hlocal.1 hto h hhost
      have hkept' := (settings_perform e' c).2
      obtain ⟨hrun, htranscript⟩ := ih hlocal.2 hview (hkept.trans (hhost.trans hkept'.symm))
      rw [List.filter_cons_of_pos (by simp [hto]), transcript, transcript,
        List.filter_cons_of_pos (by simp [hto]), htranscript, hreply]
      exact ⟨hrun, rfl⟩
    · have hview := (view_perform_of_ne e hlocal.1 hto (Ne.symm hb)).trans h
      obtain ⟨hrun, htranscript⟩ := ih hlocal.2 hview (hkept.trans hhost)
      rw [List.filter_cons_of_neg (by simp [hto, hb]), transcript,
        List.filter_cons_of_neg (by simp [hto, hb]), htranscript]
      exact ⟨hrun, rfl⟩

end Explorer

/-! ## Interleavings -/

/-- A list is made of two others, each in its order. -/
inductive Interleaves : List α → List α → List α → Prop where
  | nil : Interleaves [] [] []
  | left {xs ys zs : List α} (x : α) (h : Interleaves xs ys zs) : Interleaves (x :: xs) ys (x :: zs)
  | right {xs ys zs : List α} (y : α) (h : Interleaves xs ys zs) : Interleaves xs (y :: ys) (y :: zs)

namespace Interleaves

variable {xs ys zs : List α} {p : α → Bool}

theorem symm (h : Interleaves xs ys zs) : Interleaves ys xs zs := by
  induction h with
  | nil => exact .nil
  | left x _ ih => exact .right x ih
  | right y _ ih => exact .left y ih

theorem forall_mem {P : α → Prop} (h : Interleaves xs ys zs) (hxs : ∀ x ∈ xs, P x)
    (hys : ∀ y ∈ ys, P y) : ∀ z ∈ zs, P z := by
  induction h with
  | nil => exact hxs
  | left x _ ih =>
    rw [List.forall_mem_cons] at hxs ⊢
    exact ⟨hxs.1, ih hxs.2 hys⟩
  | right y _ ih =>
    rw [List.forall_mem_cons] at hys ⊢
    exact ⟨hys.1, ih hxs hys.2⟩

theorem filter_eq (h : Interleaves xs ys zs) (hxs : ∀ x ∈ xs, p x = true)
    (hys : ∀ y ∈ ys, p y = false) : zs.filter p = xs := by
  induction h with
  | nil => rfl
  | left x _ ih =>
    rw [List.forall_mem_cons] at hxs
    rw [List.filter_cons_of_pos hxs.1, ih hxs.2 hys]
  | right y _ ih =>
    rw [List.forall_mem_cons] at hys
    rw [List.filter_cons_of_neg (Bool.eq_false_iff.1 hys.1), ih hxs hys.2]

end Interleaves

namespace Explorer

variable [BlobStore σ]

/-- Of an interleaving of commands for two containers, each container sees its own. -/
theorem view_run_interleaves (e : Explorer σ) {a b : String} (hab : a ≠ b) {as bs cs : List Command}
    (has : ∀ c ∈ as, c.isLocal = true ∧ c.container? = some a)
    (hbs : ∀ c ∈ bs, c.isLocal = true ∧ c.container? = some b) (h : Interleaves as bs cs) :
    (e.run cs).view a = (e.run as).view a ∧
      (e.transcript cs).filter (·.1.container? = some a) = e.transcript as := by
  have hlocal : ∀ c ∈ cs, c.isLocal = true :=
    h.forall_mem (fun c hc => (has c hc).1) (fun c hc => (hbs c hc).1)
  have hfilter : cs.filter (·.container? = some a) = as :=
    h.filter_eq (fun c hc => by simp [(has c hc).2]) (fun c hc => by simp [(hbs c hc).2, Ne.symm hab])
  have hrun := view_run_filter hlocal (rfl : e.view a = e.view a) rfl
  rwa [hfilter] at hrun

/-- Containers do not interfere. A command that is addressed to one leaves the diagram, the
timer and the oracle of every other one alone. Of two sequences of local commands, one for
each of two containers, every interleaving leaves in each container what its own sequence
leaves alone, with the same replies and the same calls. -/
theorem containers_isolated (e : Explorer σ) {a b : String} (hab : a ≠ b) :
    (∀ c : Command, c.container? = some a →
      (e.perform c).2.diagrams[b]? = e.diagrams[b]? ∧
      (e.perform c).2.isRunning b = e.isRunning b ∧
      (e.perform c).2.pending[b]? = e.pending[b]?) ∧
    ∀ as bs cs, (∀ c ∈ as, Command.isLocal c = true ∧ c.container? = some a) →
      (∀ c ∈ bs, Command.isLocal c = true ∧ c.container? = some b) → Interleaves as bs cs →
      (e.run cs).view a = (e.run as).view a ∧ (e.run cs).view b = (e.run bs).view b ∧
      (e.transcript cs).filter (·.1.container? = some a) = e.transcript as ∧
      (e.transcript cs).filter (·.1.container? = some b) = e.transcript bs := by
  constructor
  · intro c hto
    have honly := e.onlyIn_perform hto
    exact ⟨honly.diagram b hab.symm, e.isRunning_perform_of_ne hto hab.symm,
      honly.oracle b hab.symm⟩
  · intro as bs cs has hbs h
    obtain ⟨hviewA, htranscriptA⟩ := e.view_run_interleaves hab has hbs h
    obtain ⟨hviewB, htranscriptB⟩ := e.view_run_interleaves hab.symm hbs has h.symm
    exact ⟨hviewA, hviewB, htranscriptA, htranscriptB⟩

/-- Two diagrams; one is undone and refuses a snapshot while the other is undone and disposed
of. -/
theorem containers_isolated_in_two :
    let e := (initial (σ := MemoryStore) ⟨{}, false⟩ {} {} 0).run
      [.render "a" "[[],[true,[]]]" true none, .render "b" "[[],[true,[]]]" true none]
    let cs : List Command :=
      [.undo "b", .undo "a", .dispose "b", .render "a" "no snapshot" false none]
    (e.perform (.undo "a")).2.isRunning "b" = e.isRunning "b" ∧
      (e.run cs).view "a" = (e.run [.undo "a", .render "a" "no snapshot" false none]).view "a" ∧
      (e.transcript cs).filter (·.1.container? = some "b")
        = e.transcript [.undo "b", .dispose "b"] := by
  intro e cs
  obtain ⟨hperform, hrun⟩ := containers_isolated e (a := "a") (b := "b") (by decide)
  obtain ⟨hview, -, -, htranscript⟩ := hrun [.undo "a", .render "a" "no snapshot" false none]
    [.undo "b", .dispose "b"] cs (by simp [Command.isLocal, Command.container?])
    (by simp [Command.isLocal, Command.container?]) (.right _ (.left _ (.right _ (.left _ .nil))))
  exact ⟨(hperform (.undo "a") rfl).2.1, hview, htranscript⟩

end Explorer

end Statescope
