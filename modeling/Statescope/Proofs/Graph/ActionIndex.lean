-- SUMMARY: What the index of actions holds under an id: the last of the labelled transitions that share it.
import Mathlib.Data.List.Basic
import Statescope.Graph.Snapshot

/-!
# The index of actions

The id of an action is joined from the parts of its transition, so that several enabled
transitions may share one. The index keeps one of them for each id: the one that the panel
lists last.
-/

namespace Statescope

namespace PanelData

/-- Some labelled transition with this action id is enabled. -/
def ListsAction (p : PanelData) (id : String) : Prop :=
  ∃ t ∈ p.enabled.map (·.transition), t.label ≠ "" ∧ t.actionId = id

/-- No labelled transition with the action id of `t` is listed after `t`. -/
def ListsLast (p : PanelData) (t : Transition) : Prop :=
  ∃ before after, p.enabled.map (·.transition) = before ++ t :: after ∧
    ∀ u ∈ after, u.label ≠ "" → u.actionId ≠ t.actionId

theorem ListsLast.mem {p : PanelData} {t : Transition} (h : p.ListsLast t) :
    t ∈ p.enabled.map (·.transition) := by
  obtain ⟨before, after, hlist, -⟩ := h
  simp [hlist]

end PanelData

namespace ActionIndex

variable {s : Snapshot} {id : String} {t : Transition}

/-- The index is searched from the end of the list. -/
theorem getElem?_ofSnapshot (s : Snapshot) (id : String) :
    (ofSnapshot s)[id]? = (s.panel.enabled.map (·.transition)).reverse.find?
      fun t => t.label ≠ "" ∧ t.actionId = id := by
  have hpairs (ts : List Transition) :
      (ts.map fun t => (t.actionId, t)).lookup id = ts.find? (·.actionId = id) := by
    induction ts with
    | nil => rfl
    | cons t ts ih =>
      rw [List.map_cons, List.lookup_cons, List.find?_cons, ih]
      by_cases h : t.actionId = id
      · simp [h]
      · simp [h, beq_eq_false_iff_ne.2 (Ne.symm h)]
  rw [ofSnapshot, Dict.getElem?_ofPairs, ← List.map_reverse, hpairs, ← List.filter_reverse,
    List.find?_filter]
  simp [Transition.isDirect]

/-- Under an id the index holds the labelled transition that is listed last with it. -/
theorem getElem?_ofSnapshot_eq_some_iff :
    (ofSnapshot s)[id]? = some t ↔ t.label ≠ "" ∧ t.actionId = id ∧ s.panel.ListsLast t := by
  rw [getElem?_ofSnapshot, List.find?_eq_some_iff_append, decide_eq_true_iff, and_assoc]
  refine and_congr_right fun _ => and_congr_right fun hid => ?_
  simp only [Bool.not_eq_true', decide_eq_false_iff_not]
  constructor
  · rintro ⟨after, before, hlist, hafter⟩
    refine ⟨before.reverse, after.reverse, (List.reverse_eq_iff.1 hlist).trans (by simp), ?_⟩
    intro u hu hlabel heq
    exact hafter u (List.mem_reverse.1 hu) ⟨hlabel, heq.trans hid⟩
  · rintro ⟨before, after, hlist, hafter⟩
    refine ⟨after.reverse, before.reverse, by simp [hlist], ?_⟩
    rintro u hu ⟨hlabel, heq⟩
    exact hafter u (List.mem_reverse.1 hu) hlabel (heq.trans hid.symm)

/-- The index holds labelled transitions that are enabled, under the ids of their actions. -/
theorem mem_enabled (h : (ofSnapshot s)[id]? = some t) :
    t ∈ s.panel.enabled.map (·.transition) ∧ id = t.actionId ∧ t.label ≠ "" := by
  obtain ⟨hlabel, hid, hlast⟩ := getElem?_ofSnapshot_eq_some_iff.1 h
  exact ⟨hlast.mem, hid.symm, hlabel⟩

theorem isSome_getElem?_ofSnapshot_iff :
    ((ofSnapshot s)[id]?).isSome = true ↔ s.panel.ListsAction id := by
  rw [getElem?_ofSnapshot, List.find?_isSome]
  simp [PanelData.ListsAction]

end ActionIndex

end Statescope
