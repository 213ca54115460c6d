-- SUMMARY: What a push makes of a queue of notices, and that the notice is visible at once and until its time is over.
import Statescope.Proofs.Pointwise
import Statescope.Session.Notice

/-!
# Notices that are shown

A push renews one notice of the queue or adds one to it (`NoticeQueue.Pushed`). However
full the queue is, what is pushed is there and can be seen at the time it is pushed. Of
several times at which the queue lets go of notices, the latest counts.
-/

namespace Statescope

theorem Notice.isVisible_of_created {n : Notice} {now : Int} (hcreated : n.created = now)
    (httl : 0 < n.ttl) : n.isVisible now = true := by
  rw [isVisible, age, hcreated, Int.sub_self]
  exact decide_eq_true httl

/-- A notice that can be seen at two times can be seen at the later one, and the other way
round. -/
theorem Notice.isVisible_max (n : Notice) (t t' : Int) :
    n.isVisible (max t t') = (n.isVisible t' && n.isVisible t) := by
  rw [Bool.eq_iff_iff, Bool.and_eq_true, isVisible, isVisible, isVisible, age, age, age,
    decide_eq_true_iff, decide_eq_true_iff, decide_eq_true_iff]
  omega

namespace NoticeQueue

/-! ## Letting go -/

/-- What is left after two times is what is left after the later one. -/
@[simp] theorem retainVisible_retainVisible (q : NoticeQueue) (t t' : Int) :
    (q.retainVisible t).retainVisible t' = q.retainVisible (max t t') := by
  simp only [retainVisible, List.filter_filter, Notice.isVisible_max]

/-- What the queue lets go of could not be seen any more. -/
@[simp] theorem visible_retainVisible (q : NoticeQueue) {t t' : Int} (h : t ≤ t') :
    (q.retainVisible t).visible t' = q.visible t' := by
  have htwice := congrArg entries (q.retainVisible_retainVisible t t')
  rw [Int.max_eq_right h] at htwice
  exact htwice

/-! ## Pushing -/

section Push

variable {q : NoticeQueue} {content : NoticeContent} {ttl : Nat} {now : Int}

/-- The notice says the same, and is at most half a second old. -/
def Repeats (content : NoticeContent) (now : Int) (n : Notice) : Prop :=
  n.content = content ∧ now ≤ n.created + window

theorem isRepeated_eq_true_iff {n : Notice} :
    isRepeated content now n = true ↔ Repeats content now n := by
  rw [isRepeated, Bool.and_eq_true, decide_eq_true_iff, decide_eq_true_iff, Repeats, Notice.age]
  exact and_congr_right fun _ => by omega

/-- What a push makes of a queue, and the id that it gives. -/
inductive Pushed (q : NoticeQueue) (content : NoticeContent) (ttl : Nat) (now : Int) :
    Nat → NoticeQueue → Prop where
  /-- The first notice that says the same and is young enough is renewed in its place. -/
  | renewed {before after : List Notice} {n : Notice} (hentries : q.entries = before ++ n :: after)
      (hrepeats : Repeats content now n) (hfirst : ∀ m ∈ before, ¬ Repeats content now m) :
      Pushed q content ttl now n.id
        { q with entries := before ++ { n with ttl, created := now } :: after }
  /-- There is no such notice, and one joins the queue, from which the front is gone if it
  was full. -/
  | joined {gone kept : List Notice} (hnone : ∀ m ∈ q.entries, ¬ Repeats content now m)
      (hentries : q.entries = gone ++ kept)
      (hgone : gone = if q.entries.length = q.capacity then q.entries.take 1 else []) :
      Pushed q content ttl now q.nextId
        { q with entries := kept ++ [⟨q.nextId, content, ttl, now⟩], nextId := q.nextId + 1 }

theorem pushed_push (q : NoticeQueue) (content : NoticeContent) (ttl : Nat) (now : Int) :
    Pushed q content ttl now (q.push content ttl now).1 (q.push content ttl now).2 := by
  unfold push
  cases hfound : q.entries.find? (isRepeated content now) with
  | some n =>
    obtain ⟨hrepeated, before, after, hentries, hbefore⟩ := List.find?_eq_some_iff_append.1 hfound
    have hmodify := modifyFirst_append_cons (fun n => { n with ttl, created := now }) after
      (fun m hm => by simpa using hbefore m hm) hrepeated
    simp only [hentries, hmodify]
    refine .renewed hentries (isRepeated_eq_true_iff.1 hrepeated) fun m hm hrepeats => ?_
    simpa [isRepeated_eq_true_iff.2 hrepeats] using hbefore m hm
  | none =>
    have hnone : ∀ m ∈ q.entries, ¬ Repeats content now m := fun m hm hrepeats =>
      List.find?_eq_none.1 hfound m hm (isRepeated_eq_true_iff.2 hrepeats)
    simp only
    split
    · rename_i hfull
      exact .joined hnone (List.take_append_drop 1 _).symm (if_pos hfull).symm
    · rename_i hroom
      exact .joined hnone (List.nil_append _).symm (if_neg hroom).symm

/-- What has been pushed is in the queue, under the id that the push gives. -/
theorem Pushed.exists_mem {id : Nat} {q' : NoticeQueue} (h : Pushed q content ttl now id q') :
    ∃ n ∈ q'.entries, n.id = id ∧ n.content = content ∧ n.ttl = ttl ∧ n.created = now := by
  cases h with
  | @renewed _ _ n _ hrepeats _ =>
    exact ⟨{ n with ttl, created := now }, by simp, rfl, hrepeats.1, rfl, rfl⟩
  | joined => exact ⟨_, List.mem_append_right _ (List.mem_singleton_self _), rfl, rfl, rfl, rfl⟩

/-- A notice can be seen in its container as soon as it is pushed. -/
theorem exists_mem_visibleFor_push (q : NoticeQueue) {content : NoticeContent} {container : String}
    (hscope : content.scope = .everywhere ∨ content.scope = .container container) {ttl : Nat}
    (httl : 0 < ttl) (now : Int) :
    ∃ n ∈ (q.push content ttl now).2.visibleFor container now, n.content = content := by
  obtain ⟨n, hmem, -, hcontent, rfl, rfl⟩ := (q.pushed_push content ttl now).exists_mem
  have hconcerns : n.concerns container = true := by
    rcases hscope with hscope | hscope <;> simp [Notice.concerns, hcontent, hscope]
  have hvisible : n.isVisible n.created = true := Notice.isVisible_of_created rfl httl
  exact ⟨n, List.mem_filter.2 ⟨List.mem_filter.2 ⟨hmem, hvisible⟩, hconcerns⟩, hcontent⟩

end Push

end NoticeQueue

end Statescope
