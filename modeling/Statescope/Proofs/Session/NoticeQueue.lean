-- SUMMARY: A queue of notices over calls whose times do not decrease: bounded, in the order of its ids, and without near duplicates.
import Mathlib.Data.List.Pairwise
import Statescope.Proofs.Session.Notice

/-!
# Queues of notices

The times at which the notices of a queue were created are in no order, for a notice that is
renewed stays where it is. What keeps near duplicates out is a relation between any two
notices: if they say the same, their times are more than half a second apart
(`Notice.Apart`). Every call keeps it that is not earlier than the notices of the queue
(`NoticeQueue.Sound`).
-/

namespace Statescope

/-! ## Notices apart -/

namespace Notice

/-- The notices say different things, or were created more than half a second apart. -/
def Apart (a b : Notice) : Prop :=
  a.content = b.content → NoticeQueue.window < (a.created - b.created).natAbs

theorem Apart.symm {a b : Notice} (h : Apart a b) : Apart b a := by
  intro heq
  have hwindow := h heq.symm
  omega

instance : Std.Symm Apart where
  symm _ _ := Apart.symm

/-- A notice stays apart from the others when it is renewed: the others are older than the
half second in which it could be. -/
theorem Apart.renewed {n m : Notice} {content : NoticeContent} {now : Int} (h : Apart n m)
    (hrepeats : NoticeQueue.Repeats content now n) (hn : n.created ≤ now) (hm : m.created ≤ now)
    (ttl : Nat) : Apart { n with ttl, created := now } m := by
  intro heq
  have hwindow := h heq
  have hyoung := hrepeats.2
  change NoticeQueue.window < (now - m.created).natAbs
  omega

/-- A new notice is apart from those that it does not renew. -/
theorem apart_of_not_repeats {m : Notice} {content : NoticeContent} {now : Int}
    (h : ¬ NoticeQueue.Repeats content now m) (hm : m.created ≤ now) (id ttl : Nat) :
    Apart m ⟨id, content, ttl, now⟩ := by
  intro heq
  have hold : ¬ now ≤ m.created + NoticeQueue.window := fun hyoung => h ⟨heq, hyoung⟩
  change NoticeQueue.window < (m.created - now).natAbs
  omega

end Notice

namespace NoticeQueue

/-! ## Calls -/

/-- What can be asked of a queue. -/
inductive Call where
  | push (content : NoticeContent) (ttl : Nat) (now : Int)
  | retainVisible (now : Int)

def Call.time : Call → Int
  | .push _ _ now => now
  | .retainVisible now => now

/-- Carries out a call. Gives the id, if it is a push. -/
def perform (q : NoticeQueue) : Call → Option Nat × NoticeQueue
  | .push content ttl now => (some (q.push content ttl now).1, (q.push content ttl now).2)
  | .retainVisible now => (none, q.retainVisible now)

/-- The queue after a list of calls. -/
def run (q : NoticeQueue) (calls : List Call) : NoticeQueue :=
  calls.foldl (fun q c => (q.perform c).2) q

/-- The ids that a list of calls gives. -/
def givenIds (q : NoticeQueue) : List Call → List Nat
  | [] => []
  | c :: cs => (q.perform c).1.toList ++ (q.perform c).2.givenIds cs

/-! ## What calls keep -/

/-- What is known of a queue at a time that no call so far was later than. -/
structure Sound (q : NoticeQueue) (now : Int) : Prop where
  capacity_pos : 0 < q.capacity
  length_le : q.entries.length ≤ q.capacity
  increasing : (q.entries.map (·.id)).Pairwise (· < ·)
  id_lt : ∀ n ∈ q.entries, n.id < q.nextId
  created_le : ∀ n ∈ q.entries, n.created ≤ now
  apart : q.entries.Pairwise Notice.Apart

section Calls

variable {q q' : NoticeQueue} {content : NoticeContent} {id ttl : Nat} {t now : Int}

theorem sound_empty (capacity : Nat) (now : Int) : Sound (empty capacity) now where
  capacity_pos := Nat.lt_of_lt_of_le Nat.zero_lt_one (Nat.le_max_left 1 capacity)
  length_le := Nat.zero_le _
  increasing := .nil
  id_lt := nofun
  created_le := nofun
  apart := .nil

theorem Sound.mono (h : Sound q t) (ht : t ≤ now) : Sound q now :=
  { h with created_le := fun n hn => Int.le_trans (h.created_le n hn) ht }

/-- A queue is sound with some of its notices gone. -/
theorem Sound.sublist (h : Sound q now) {entries : List Notice} (hsub : entries.Sublist q.entries) :
    Sound { q with entries } now where
  capacity_pos := h.capacity_pos
  length_le := Nat.le_trans hsub.length_le h.length_le
  increasing := h.increasing.sublist (hsub.map _)
  id_lt n hn := h.id_lt n (hsub.subset hn)
  created_le n hn := h.created_le n (hsub.subset hn)
  apart := h.apart.sublist hsub

/-- Two notices that one push might renew would be too close to each other. -/
theorem Sound.eq_of_repeats (h : Sound q now) {m n : Notice} (hm : m ∈ q.entries)
    (hn : n ∈ q.entries) (hrm : Repeats content now m) (hrn : Repeats content now n) : m = n := by
  by_contra hne
  have hapart := h.apart.forall hm hn hne (hrm.1.trans hrn.1.symm)
  have hcm := h.created_le m hm
  have hcn := h.created_le n hn
  have hwm := hrm.2
  have hwn := hrn.2
  omega

theorem Sound.renewed (h : Sound q now) {before after : List Notice} {n : Notice}
    (hentries : q.entries = before ++ n :: after) (hrepeats : Repeats content now n) (ttl : Nat) :
    Sound { q with entries := before ++ { n with ttl, created := now } :: after } now := by
  obtain ⟨hcapacity, hlength, hincreasing, hid, hcreated, hapart⟩ := h
  rw [hentries] at hlength hincreasing hid hcreated hapart
  refine ⟨hcapacity, ?_, ?_, fun m hm => ?_, fun m hm => ?_, ?_⟩
  · simpa using hlength
  · simpa using hincreasing
  · rw [List.mem_append, List.mem_cons] at hm
    rcases hm with hm | rfl | hm
    · exact hid m (by simp [hm])
    · exact hid n (by simp)
    · exact hid m (by simp [hm])
  · rw [List.mem_append, List.mem_cons] at hm
    rcases hm with hm | rfl | hm
    · exact hcreated m (by simp [hm])
    · exact Int.le_refl now
    · exact hcreated m (by simp [hm])
  · rw [List.pairwise_middle Notice.Apart.symm, List.pairwise_cons] at hapart ⊢
    refine ⟨fun m hm => ?_, hapart.2⟩
    have hmem : m ∈ before ++ n :: after := by
      rw [List.mem_append] at hm ⊢
      exact hm.imp_right (List.mem_cons_of_mem n)
    exact (hapart.1 m hm).renewed hrepeats (hcreated n (by simp)) (hcreated m hmem) ttl

theorem Sound.joined (h : Sound q now) (hroom : q.entries.length < q.capacity)
    (hnone : ∀ m ∈ q.entries, ¬ Repeats content now m) (ttl : Nat) :
    Sound { q with entries := q.entries ++ [⟨q.nextId, content, ttl, now⟩], nextId := q.nextId + 1 }
      now where
  capacity_pos := h.capacity_pos
  length_le := by simpa using Nat.succ_le_of_lt hroom
  increasing := by
    rw [List.map_append, List.pairwise_append]
    refine ⟨h.increasing, List.pairwise_singleton _ _, fun i hi j hj => ?_⟩
    obtain ⟨n, hn, rfl⟩ := List.mem_map.1 hi
    rw [List.map_singleton, List.mem_singleton] at hj
    exact hj ▸ h.id_lt n hn
  id_lt n hn := by
    rw [List.mem_append, List.mem_singleton] at hn
    rcases hn with hn | rfl
    · exact Nat.lt_succ_of_lt (h.id_lt n hn)
    · exact Nat.lt_succ_self _
  created_le n hn := by
    rw [List.mem_append, List.mem_singleton] at hn
    rcases hn with hn | rfl
    · exact h.created_le n hn
    · exact Int.le_refl now
  apart := by
    rw [List.pairwise_append]
    refine ⟨h.apart, List.pairwise_singleton _ _, fun m hm n hn => ?_⟩
    rw [List.mem_singleton] at hn
    subst hn
    exact Notice.apart_of_not_repeats (hnone m hm) (h.created_le m hm) _ _

theorem Sound.pushed (h : Sound q now) (hpushed : Pushed q content ttl now id q') : Sound q' now := by
  cases hpushed with
  | renewed hentries hrepeats _ => exact h.renewed hentries hrepeats ttl
  | @joined gone kept hnone hentries hgone =>
    -- What is kept is a queue with room for one more.
    have hsub : kept.Sublist q.entries := hentries ▸ List.sublist_append_right gone kept
    have hroom : kept.length < q.capacity := by
      have hlength := congrArg List.length hentries
      have hpos := h.capacity_pos
      have hle := h.length_le
      rw [List.length_append] at hlength
      split at hgone
      · rw [hgone, List.length_take] at hlength
        omega
      · rw [hgone, List.length_nil] at hlength
        omega
    exact (h.sublist hsub).joined hroom (fun m hm => hnone m (hsub.subset hm)) ttl

/-- No call but a later one leads from a sound queue to another. -/
theorem Sound.perform (h : Sound q t) {c : Call} (ht : t ≤ c.time) :
    Sound (q.perform c).2 c.time := by
  have hsound := h.mono ht
  cases c with
  | push content ttl now => exact hsound.pushed (q.pushed_push content ttl now)
  | retainVisible now => exact hsound.sublist List.filter_sublist

theorem Sound.run (h : Sound q t) {calls : List Call}
    (hcalls : (t :: calls.map Call.time).Pairwise (· ≤ ·)) (ht : t ≤ now)
    (hnow : ∀ c ∈ calls, c.time ≤ now) : Sound (q.run calls) now := by
  induction calls generalizing q t with
  | nil => exact h.mono ht
  | cons c cs ih =>
    rw [List.map_cons, List.pairwise_cons] at hcalls
    obtain ⟨hfirst, hrest⟩ := hcalls
    rw [List.forall_mem_cons] at hnow
    exact ih (h.perform (hfirst c.time List.mem_cons_self)) hrest hnow.1 hnow.2

/-! ## Ids -/

theorem Pushed.nextId_bounds (h : Pushed q content ttl now id q') :
    q.nextId ≤ q'.nextId ∧ q'.nextId ≤ q.nextId + 1 := by
  cases h with
  | renewed => exact ⟨Nat.le_refl _, Nat.le_succ _⟩
  | joined => exact ⟨Nat.le_succ _, Nat.le_refl _⟩

theorem nextId_perform_bounds (q : NoticeQueue) (c : Call) :
    q.nextId ≤ (q.perform c).2.nextId ∧ (q.perform c).2.nextId ≤ q.nextId + 1 := by
  cases c with
  | push content ttl now => exact (q.pushed_push content ttl now).nextId_bounds
  | retainVisible now => exact ⟨Nat.le_refl _, Nat.le_succ _⟩

theorem nextId_run_bounds (q : NoticeQueue) (calls : List Call) :
    q.nextId ≤ (q.run calls).nextId ∧ (q.run calls).nextId ≤ q.nextId + calls.length := by
  induction calls generalizing q with
  | nil => exact ⟨Nat.le_refl _, Nat.le_refl _⟩
  | cons c cs ih =>
    have hstep := q.nextId_perform_bounds c
    have hrest := ih (q.perform c).2
    rw [List.length_cons]
    change q.nextId ≤ ((q.perform c).2.run cs).nextId ∧
      ((q.perform c).2.run cs).nextId ≤ q.nextId + (cs.length + 1)
    omega

/-- A push gives the id of a notice of the queue, or else a new one. -/
theorem Sound.id_lt_of_pushed (h : Sound q t) (hpushed : Pushed q content ttl now id q') :
    id < q'.nextId := by
  cases hpushed with
  | renewed hentries _ _ => exact h.id_lt _ (by simp [hentries])
  | joined _ _ _ => exact Nat.lt_succ_self _

theorem Sound.id_lt_of_perform (h : Sound q t) {c : Call} (hid : (q.perform c).1 = some id) :
    id < (q.perform c).2.nextId := by
  cases c with
  | push content ttl now =>
    cases hid
    exact h.id_lt_of_pushed (q.pushed_push content ttl now)
  | retainVisible now => cases hid

theorem Sound.id_lt_of_givenIds (h : Sound q t) {calls : List Call}
    (hcalls : (t :: calls.map Call.time).Pairwise (· ≤ ·)) :
    ∀ id ∈ q.givenIds calls, id < (q.run calls).nextId := by
  induction calls generalizing q t with
  | nil => nofun
  | cons c cs ih =>
    rw [List.map_cons, List.pairwise_cons] at hcalls
    obtain ⟨hfirst, hrest⟩ := hcalls
    intro id hid
    rw [givenIds, List.mem_append, Option.mem_toList] at hid
    rcases hid with hid | hid
    · exact Nat.lt_of_lt_of_le (h.id_lt_of_perform hid) ((q.perform c).2.nextId_run_bounds cs).1
    · exact ih (h.perform (hfirst c.time List.mem_cons_self)) hrest id hid

end Calls

/-! ## Capacity -/

theorem Pushed.capacity_eq {q q' : NoticeQueue} {content : NoticeContent} {id ttl : Nat} {now : Int}
    (h : Pushed q content ttl now id q') : q'.capacity = q.capacity := by
  cases h <;> rfl

@[simp] theorem capacity_run (q : NoticeQueue) (calls : List Call) :
    (q.run calls).capacity = q.capacity := by
  induction calls generalizing q with
  | nil => rfl
  | cons c cs ih =>
    refine (ih (q.perform c).2).trans ?_
    cases c with
    | push content ttl now => exact (q.pushed_push content ttl now).capacity_eq
    | retainVisible now => rfl

/-! ## Queues from the start -/

section Start

variable {calls : List Call}

/-- Calls whose times do not decrease have an earliest time. -/
theorem exists_start (hcalls : (calls.map Call.time).Pairwise (· ≤ ·)) {now : Int}
    (hnow : ∀ c ∈ calls, c.time ≤ now) :
    ∃ t, t ≤ now ∧ (t :: calls.map Call.time).Pairwise (· ≤ ·) := by
  cases calls with
  | nil => exact ⟨now, Int.le_refl now, List.pairwise_singleton _ _⟩
  | cons c cs =>
    refine ⟨c.time, hnow c List.mem_cons_self, List.pairwise_cons.2 ⟨fun s hs => ?_, hcalls⟩⟩
    rcases List.mem_cons.1 hs with rfl | hs
    · exact Int.le_refl _
    · exact (List.pairwise_cons.1 hcalls).1 s hs

theorem exists_end (calls : List Call) : ∃ now, ∀ c ∈ calls, c.time ≤ now := by
  induction calls with
  | nil => exact ⟨0, nofun⟩
  | cons c cs ih =>
    obtain ⟨now, hnow⟩ := ih
    refine ⟨max c.time now, List.forall_mem_cons.2 ⟨Int.le_max_left _ _, fun c' hc' => ?_⟩⟩
    exact Int.le_trans (hnow c' hc') (Int.le_max_right _ _)

theorem sound_run_empty (capacity : Nat) (hcalls : (calls.map Call.time).Pairwise (· ≤ ·)) {now : Int}
    (hnow : ∀ c ∈ calls, c.time ≤ now) : Sound ((empty capacity).run calls) now := by
  obtain ⟨t, ht, hsorted⟩ := exists_start hcalls hnow
  exact (sound_empty capacity t).run hsorted ht hnow

end Start

/-! ## Laws -/

/-- A queue after any calls whose times do not decrease is within its capacity, in the order
of its ids, all of which are below the next one and none of which is ever given anew; notices
that say the same are more than half a second apart. A push then renews the only notice that
says the same and is young enough, or else adds one, and its id is that of a notice that is
in the queue as pushed. Letting go of notices takes none of those that are still to be seen. -/
theorem queue_laws_of_calls (capacity : Nat) {calls : List Call}
    (hcalls : (calls.map Call.time).Pairwise (· ≤ ·)) :
    let q := (empty capacity).run calls
    q.entries.length ≤ max 1 capacity ∧
    (q.entries.map (·.id)).Pairwise (· < ·) ∧
    (∀ id ∈ (empty capacity).givenIds calls, id < q.nextId) ∧ q.nextId ≤ calls.length + 1 ∧
    q.entries.Pairwise Notice.Apart ∧
    (∀ content ttl now, (∀ c ∈ calls, c.time ≤ now) →
      Pushed q content ttl now (q.push content ttl now).1 (q.push content ttl now).2 ∧
      (∃ n ∈ (q.push content ttl now).2.entries,
        n.id = (q.push content ttl now).1 ∧ n.content = content ∧ n.ttl = ttl ∧ n.created = now) ∧
      ∀ m ∈ q.entries, ∀ n ∈ q.entries,
        Repeats content now m → Repeats content now n → m = n) ∧
    ∀ t t', t ≤ t' → (q.retainVisible t).visible t' = q.visible t' := by
  intro q
  obtain ⟨last, hlast⟩ := exists_end calls
  have hsound := sound_run_empty capacity hcalls hlast
  obtain ⟨start, -, hsorted⟩ := exists_start hcalls hlast
  have hnext := (nextId_run_bounds (empty capacity) calls).2
  refine ⟨?_, hsound.increasing, (sound_empty capacity start).id_lt_of_givenIds hsorted, ?_,
    hsound.apart, fun content ttl now hnow => ?_, fun t t' => q.visible_retainVisible⟩
  · have hcapacity : q.capacity = max 1 capacity := capacity_run (empty capacity) calls
    exact hcapacity ▸ hsound.length_le
  · exact (Nat.add_comm 1 calls.length) ▸ hnext
  · have hpushed := q.pushed_push content ttl now
    refine ⟨hpushed, hpushed.exists_mem, fun m hm n hn => ?_⟩
    exact (sound_run_empty capacity hcalls hnow).eq_of_repeats hm hn

/-- A queue for two notices. The first one is renewed in its place, so that it is the younger
of the two and yet the one that is gone when a third one comes. The second is more than
half a second old by then, by a nanosecond, and is not renewed. -/
theorem queue_laws_of_calls_in_full_queue :
    let a : NoticeContent := ⟨.info, .everywhere, "a", none⟩
    let b : NoticeContent := ⟨.error, .container "c", "b", some "why"⟩
    let short := millis 4000
    let long := millis 8000
    let calls : List Call :=
      [.push a short 0, .push b long 0, .push a short 300, .retainVisible (millis 400)]
    let q := (empty 2).run calls
    (calls.map Call.time).Pairwise (· ≤ ·) ∧
    (empty 2).givenIds calls = [1, 2, 1] ∧
    q.entries = [⟨1, a, short, 300⟩, ⟨2, b, long, 0⟩] ∧
    (q.push b long (window + 1)).2.entries = [⟨2, b, long, 0⟩, ⟨3, b, long, window + 1⟩] ∧
    q.entries.Pairwise Notice.Apart ∧
    Pushed q b long (window + 1) 3 (q.push b long (window + 1)).2 ∧
    (q.retainVisible (short + 300)).entries = [⟨2, b, long, 0⟩] ∧
    (q.retainVisible (short + 300)).visible (long - 1) = q.visible (long - 1) := by
  intro a b short long calls q
  have hcalls : (calls.map Call.time).Pairwise (· ≤ ·) := by decide
  obtain ⟨-, -, -, -, hapart, hpush, hretain⟩ := queue_laws_of_calls 2 hcalls
  exact ⟨hcalls, by decide +kernel, by decide +kernel, by decide +kernel, hapart,
    (hpush b long (window + 1) (by decide +kernel)).1, by decide +kernel,
    hretain (short + 300) (long - 1) (by decide +kernel)⟩

end NoticeQueue

end Statescope
