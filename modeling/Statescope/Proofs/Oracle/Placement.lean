-- SUMMARY: Oracles move nodes only.
import Statescope.Oracle.Placement
import Statescope.Proofs.Canvas.Surface

/-!
# Placement moves nodes only

Known positions go to nodes by their kind. A midpoint is filed under an id, so that
it takes distinct ids for it not to reach an edge.
-/

namespace Statescope.PositionOracle

open Element

theorem moved_placeKnown (o : PositionOracle) (e : Element) : Moved e (o.placeKnown e) := by
  unfold placeKnown
  split
  · rename_i p hp
    refine moved_of_isNode ?_ _
    cases hkind : e.kind <;> simp [find?, hkind, isNode] at hp ⊢
  · exact Moved.refl e

/-- A midpoint belongs to a node of the list. -/
theorem isNodeOf_of_mem_midpoints {elements : List Element} {id : String} {p : Position}
    (h : (midpoints elements)[id]? = some p) : IsNodeOf elements id := by
  have hmem := Dict.mem_of_getElem?_ofPairs h
  rw [List.mem_filterMap] at hmem
  obtain ⟨e, he, hp⟩ := hmem
  rw [Option.map_eq_some_iff] at hp
  obtain ⟨_, -, hpair⟩ := hp
  rw [List.mem_filter, needsPosition, Bool.and_eq_true] at he
  exact ⟨e, he.1, he.2.1, congrArg Prod.fst hpair⟩

theorem allMoved_placeMidpoint {elements : List Element}
    (hnodup : (elements.map (·.id)).Nodup) :
    AllMoved elements (elements.map (placeMidpoint (midpoints elements))) := by
  apply forall₂_map_self
  intro e he
  unfold placeMidpoint
  split
  · rename_i p hp
    obtain ⟨e', he', hnode, hid⟩ := isNodeOf_of_mem_midpoints hp
    rw [List.inj_on_of_nodup_map hnodup he' he hid] at hnode
    exact moved_of_isNode hnode _
  · exact Moved.refl e

theorem allMoved_place (o : PositionOracle) {elements : List Element}
    (hnodup : (elements.map (·.id)).Nodup) : AllMoved elements (o.place elements).1 := by
  have hknown : AllMoved elements (elements.map o.placeKnown) :=
    forall₂_map_self fun e _ => moved_placeKnown o e
  refine hknown.trans (allMoved_placeMidpoint ?_)
  rwa [hknown.map_id_eq]

end Statescope.PositionOracle
