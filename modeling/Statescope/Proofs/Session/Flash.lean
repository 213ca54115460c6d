-- SUMMARY: What a snapshot highlights, how long the highlight lasts, and what is left of a drawing when it is over.
import Statescope.Proofs.Canvas.Surface
import Statescope.Session.Drawing

/-!
# Highlights

A snapshot highlights those of its elements that its transition went through. `update_eq`
says all that a later snapshot makes of a drawing, and `expireFlash_eq` all that the end of
a highlight does: the mark is taken off the highlighted elements, and nothing else happens.
-/

namespace Statescope

open Element Surface

/-! ## Marks -/

/-- The elements of the snapshot that its transition went through, if it has one. -/
def Snapshot.flashIds (s : Snapshot) : List String :=
  match s.lastTransition with
  | some t => t.flashSet.filter (· ∈ s.elements.map (·.id))
  | none => []

namespace Element

/-- The element with the mark of highlights, if its id is named. -/
def marked (ids : List String) (a : Element) : Element :=
  if a.id ∈ ids then { a with classes := a.classes.insert flashClass } else a

/-- The element without the mark of highlights, if its id is named. -/
def cleared (ids : List String) (a : Element) : Element :=
  if a.id ∈ ids then { a with classes := a.classes.erase flashClass } else a

@[simp] theorem marked_nil (a : Element) : a.marked [] = a := rfl

@[simp] theorem cleared_nil (a : Element) : a.cleared [] = a := rfl

@[simp] theorem id_marked (ids : List String) (a : Element) : (a.marked ids).id = a.id := by
  unfold marked
  split <;> rfl

@[simp] theorem position_marked (ids : List String) (a : Element) :
    (a.marked ids).position = a.position := by
  unfold marked
  split <;> rfl

@[simp] theorem id_cleared (ids : List String) (a : Element) : (a.cleared ids).id = a.id := by
  unfold cleared
  split <;> rfl

@[simp] theorem position_cleared (ids : List String) (a : Element) :
    (a.cleared ids).position = a.position := by
  unfold cleared
  split <;> rfl

end Element

namespace Surface

variable {s : Surface}

theorem addClass_eq (hnodup : (s.elements.map (·.id)).Nodup) (ids : List String) :
    s.addClass ids flashClass = { s with elements := s.elements.map (·.marked ids) } :=
  congrArg (fun elements => { s with elements }) (elements_addClass hnodup ids flashClass)

theorem removeClass_eq (hnodup : (s.elements.map (·.id)).Nodup) (ids : List String) :
    s.removeClass ids flashClass = { s with elements := s.elements.map (·.cleared ids) } :=
  congrArg (fun elements => { s with elements }) (elements_removeClass hnodup ids flashClass)

end Surface

namespace Drawing

variable {d : Drawing}

/-! ## Beginning -/

/-- The drawing with these elements highlighted. -/
def flashing (d : Drawing) (ids : List String) (deadline : Int) : Drawing :=
  { d with
    surface := { d.surface with elements := d.surface.elements.map (·.marked ids) }
    flash := some ⟨ids, deadline⟩ }

theorem highlight_eq (hnodup : (d.surface.elements.map (·.id)).Nodup) (t : Transition) (now : Int) :
    d.highlight t now
      = if t.flashSet.filter (· ∈ d.surface.elements.map (·.id)) = [] then d
        else d.flashing (t.flashSet.filter (· ∈ d.surface.elements.map (·.id)))
          (now + d.options.flashDuration) := by
  rw [highlight, funext d.surface.contains_eq_decide_mem]
  split
  · rw [if_pos ‹_›]
  · rename_i ids hids
    rw [if_neg hids, addClass_eq hnodup]
    rfl

/-- The drawing of a later snapshot: its elements are those of the snapshot, with the mark on
those it highlights. Nodes without a position stay where their ids were. -/
def updated (d : Drawing) (s : Snapshot) (now : Int) : Drawing :=
  { d with
    surface := { d.surface with
      elements := s.elements.map fun a => (d.surface.carryOver a).marked s.flashIds
      loads := d.surface.loads + 1 }
    flash := if s.flashIds = [] then none else some ⟨s.flashIds, now + d.options.flashDuration⟩
    index := .ofSnapshot s }

/-- A later snapshot is drawn if its elements are well formed. What was highlighted before it
does not matter. -/
theorem update_eq {s : Snapshot} (h : WellFormed s.elements) (d : Drawing) (now : Int) :
    d.update s now = .ok (d.updated s now) := by
  have hids : (s.elements.map d.surface.carryOver).map (·.id) = s.elements.map (·.id) :=
    AllMoved.map_id_eq (forall₂_map_self fun a _ => moved_carryOver d.surface a)
  rw [update, load_of_wellFormed h]
  simp only
  cases ht : s.lastTransition with
  | none => simp [updated, Snapshot.flashIds, ht]
  | some t =>
    have hflash : t.flashSet.filter (· ∈ s.elements.map (·.id)) = s.flashIds := by
      rw [Snapshot.flashIds, ht]
    simp only
    rw [highlight_eq (hids ▸ h.nodup)]
    simp only [hids, hflash]
    split
    · simp [updated, *]
    · simp only [updated, flashing, List.map_map, *, if_false]
      rfl

@[simp] theorem flashed_updated (d : Drawing) (s : Snapshot) (now : Int) :
    (d.updated s now).flashed = s.flashIds := by
  simp only [flashed, updated]
  by_cases h : s.flashIds = []
  · rw [if_pos h, h]
  · rw [if_neg h]

theorem deadline?_updated (d : Drawing) (s : Snapshot) (now : Int) :
    (d.updated s now).deadline?
      = if s.flashIds = [] then none else some (now + d.options.flashDuration) := by
  simp only [deadline?, updated]
  split <;> rfl

theorem classes_updated (d : Drawing) (s : Snapshot) (now : Int) :
    (d.updated s now).surface.elements.map (fun a => (a.id, a.classes))
      = s.elements.map fun a => (a.id, (a.marked s.flashIds).classes) := by
  simp only [updated, List.map_map]
  apply List.map_congr_left
  intro a _
  -- A place that is taken over changes neither the id nor what goes by it.
  obtain ⟨p, hmoved, -⟩ := moved_carryOver d.surface a
  rw [Function.comp_apply, hmoved]
  simp only [marked]
  split <;> rfl

/-! ## End -/

/-- The drawing when its highlight is over: the mark is off the highlighted elements, and all
else is as it was. -/
def unflashed (d : Drawing) : Drawing :=
  { d with
    surface := { d.surface with elements := d.surface.elements.map (·.cleared d.flashed) }
    flash := none }

theorem unflashed_of_dark (h : d.flash = none) : d.unflashed = d := by
  obtain ⟨surface, _, _, _, _, _⟩ := d
  cases h
  simp [unflashed, flashed]

theorem expireFlash_of_dark (h : d.flash = none) (now : Int) : (d.expireFlash now).2 = d := by
  rw [expireFlash, h]

/-- A highlight is over from its deadline on. -/
theorem expireFlash_eq (hnodup : (d.surface.elements.map (·.id)).Nodup) (now : Int) :
    (d.expireFlash now).2 = if d.deadline?.any (· ≤ now) then d.unflashed else d := by
  cases hflash : d.flash with
  | none => simp only [expireFlash, deadline?, hflash, Option.map_none, Option.any_none]; rfl
  | some flash =>
    simp only [expireFlash, deadline?, hflash, Option.map_some, Option.any_some, decide_eq_true_iff]
    split
    · rw [removeClass_eq hnodup, unflashed, flashed, hflash]
    · rfl

/-- A highlight that is left is not over yet. -/
theorem lt_of_deadline?_expireFlash {now deadline : Int}
    (h : (d.expireFlash now).2.deadline? = some deadline) : now < deadline := by
  unfold expireFlash at h
  split at h
  · rename_i flash hflash
    split at h
    · cases h
    · rw [deadline?, hflash, Option.map_some, Option.some_inj] at h
      omega
  · rw [deadline?, ‹d.flash = none›] at h
    cases h

/-- Of two attempts to end a highlight the later one counts. -/
@[simp] theorem expireFlash_expireFlash (d : Drawing) (t t' : Int) :
    ((d.expireFlash t).2.expireFlash t').2 = (d.expireFlash (max t t')).2 := by
  cases hflash : d.flash with
  | none => simp only [expireFlash, hflash]
  | some flash =>
    by_cases h : flash.deadline ≤ t
    · have hmax : flash.deadline ≤ max t t' := by omega
      simp only [expireFlash, hflash, if_pos h, if_pos hmax]
    · have hiff : flash.deadline ≤ max t t' ↔ flash.deadline ≤ t' := by omega
      simp only [expireFlash, hflash, if_neg h, hiff]

end Drawing

end Statescope
