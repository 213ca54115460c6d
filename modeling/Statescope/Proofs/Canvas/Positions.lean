-- SUMMARY: Where the nodes of a surface are after one of them is moved, and after saved positions are applied.
import Statescope.Proofs.Canvas.Surface

/-!
# Positions on a surface

A drag moves one node and leaves all else as it is. Applying saved positions is a drag for
each of them, so that the nodes they name end up there, in whatever order they are taken.
-/

namespace Statescope

/-! ## One element -/

namespace Element

/-- A node goes to a place, if there is one to go to. An edge stays as it is. -/
def goTo (p? : Option Position) (a : Element) : Element :=
  if a.isNode then { a with position := p?.or a.position } else a

@[simp] theorem goTo_none (a : Element) : a.goTo none = a := by
  unfold goTo
  split <;> rfl

@[simp] theorem id_goTo (p? : Option Position) (a : Element) : (a.goTo p?).id = a.id := by
  unfold goTo
  split <;> rfl

theorem map_id_goTo (p? : Element → Option Position) (es : List Element) :
    (es.map fun a => a.goTo (p? a)).map (·.id) = es.map (·.id) := by
  rw [List.map_map]
  exact List.map_congr_left fun a _ => id_goTo (p? a) a

@[simp] theorem isNode_goTo (p? : Option Position) (a : Element) : (a.goTo p?).isNode = a.isNode := by
  unfold goTo
  split <;> rfl

theorem goTo_of_isNode {a : Element} (h : a.isNode = true) (p : Position) :
    a.goTo (some p) = { a with position := some p } := by
  rw [goTo, if_pos h, Option.some_or]

/-- The place it goes to last is where it is. -/
@[simp] theorem goTo_goTo (p? q? : Option Position) (a : Element) :
    (a.goTo p?).goTo q? = a.goTo (q?.or p?) := by
  rw [goTo, isNode_goTo]
  unfold goTo
  split
  · rw [Option.or_assoc]
  · rfl

end Element

namespace Surface

open Element

variable {s : Surface} {id : String}

/-! ## Looking up -/

theorem position?_eq_none (h : id ∉ s.elements.map (·.id)) : s.position? id = none := by
  rw [position?, element?, find?_eq_none_of_not_mem h]
  rfl

/-- Where elements are changed and keep their ids, each is found in the place of the old one. -/
theorem position?_of_map {es : List Element} {f : Element → Element} (h : s.elements = es.map f)
    (hid : ∀ a, (f a).id = a.id) (id : String) :
    s.position? id = es.find? (·.id = id) >>= fun a => (f a).position := by
  rw [position?, element?, h, List.find?_map]
  simp only [Function.comp_def, hid]
  cases es.find? (·.id = id) <;> rfl

/-! ## One drag -/

/-- The surface with its node elsewhere that has the id. -/
def dragged (s : Surface) (id : String) (p : Position) : Surface :=
  { s with elements := s.elements.map fun a => if a.id = id then { a with position := some p } else a }

theorem setPosition_of_isNodeOf (hnodup : (s.elements.map (·.id)).Nodup)
    (h : IsNodeOf s.elements id) (p : Position) : s.setPosition id p = .ok (s.dragged id p) := by
  obtain ⟨a, ha, hnode, hid⟩ := h
  rw [setPosition, (element?_eq_some_iff hnodup).2 ⟨ha, hid⟩]
  simp only [hnode, if_true]
  rw [modifyFirst_eq_map hnodup, dragged]

theorem setPosition_of_not_isNodeOf (h : ¬ IsNodeOf s.elements id) (p : Position) :
    ∃ cause, s.setPosition id p = .error cause := by
  unfold setPosition
  split
  · exact ⟨_, rfl⟩
  · rename_i a ha
    obtain ⟨hmem, hid⟩ := mem_of_element? ha
    split
    · exact absurd ⟨a, hmem, ‹_›, hid⟩ h
    · exact ⟨_, rfl⟩

/-! ## Applying positions -/

/-- A drag is passed over where there is no node with the id. -/
theorem elements_setPosition_getD (hnodup : (s.elements.map (·.id)).Nodup) (id : String)
    (p : Position) : ((s.setPosition id p).toOption.getD s).elements
      = s.elements.map fun a => a.goTo ([(id, p)].lookup a.id) := by
  have hlookup (a : Element) : [(id, p)].lookup a.id = if a.id = id then some p else none := by
    rw [List.lookup_cons, List.lookup_nil, beq_eq_decide]
    split <;> simp_all
  by_cases h : IsNodeOf s.elements id
  · rw [setPosition_of_isNodeOf hnodup h, Except.toOption, Option.getD_some, dragged]
    obtain ⟨node, hmem, hnode, rfl⟩ := h
    apply List.map_congr_left
    intro a ha
    rw [hlookup]
    split
    · rename_i hid
      rw [List.inj_on_of_nodup_map hnodup ha hmem hid, goTo_of_isNode hnode]
    · rw [goTo_none]
  · obtain ⟨cause, herror⟩ := setPosition_of_not_isNodeOf h p
    rw [herror, Except.toOption, Option.getD_none]
    refine ((List.map_congr_left fun a ha => ?_).trans (List.map_id _)).symm
    rw [hlookup]
    split
    · rename_i hid
      have hedge : ¬ a.isNode = true := fun hnode => h ⟨a, ha, hnode, hid⟩
      rw [goTo, if_neg hedge, id_eq]
    · rw [goTo_none, id_eq]

/-- The last position with the id of a node is where it goes. -/
theorem elements_foldl_setPosition (hnodup : (s.elements.map (·.id)).Nodup)
    (pairs : List (String × Position)) :
    (pairs.foldl (fun s pair => (s.setPosition pair.1 pair.2).toOption.getD s) s).elements
      = s.elements.map fun a => a.goTo (pairs.reverse.lookup a.id) := by
  induction pairs generalizing s with
  | nil => simp
  | cons pair pairs ih =>
    obtain ⟨key, p⟩ := pair
    have hstep := elements_setPosition_getD hnodup key p
    have hnodup' : (((s.setPosition key p).toOption.getD s).elements.map (·.id)).Nodup := by
      rw [hstep, map_id_goTo]
      exact hnodup
    rw [List.foldl_cons, ih hnodup', hstep, List.map_map]
    apply List.map_congr_left
    intro a _
    rw [Function.comp_apply, goTo_goTo, id_goTo, List.reverse_cons, List.lookup_append]

/-- The nodes that the positions name go there, and all else stays as it is. -/
theorem elements_applyPositions (hnodup : (s.elements.map (·.id)).Nodup) (positions : Dict Position) :
    (s.applyPositions positions).elements = s.elements.map fun a => a.goTo positions[a.id]? := by
  refine (elements_foldl_setPosition hnodup positions.toList).trans ?_
  apply List.map_congr_left
  intro a _
  rw [← Dict.getElem?_ofPairs, Dict.ofPairs_toList]

theorem exists_setPosition_getD (s : Surface) (id : String) (p : Position) :
    ∃ elements, (s.setPosition id p).toOption.getD s = { s with elements } := by
  unfold setPosition
  split
  · exact ⟨s.elements, rfl⟩
  · split <;> exact ⟨_, rfl⟩

/-- Positions are applied to the elements and to nothing else. -/
theorem exists_applyPositions (s : Surface) (positions : Dict Position) :
    ∃ elements, s.applyPositions positions = { s with elements } := by
  unfold applyPositions
  induction positions.toList generalizing s with
  | nil => exact ⟨s.elements, rfl⟩
  | cons pair pairs ih =>
    obtain ⟨key, p⟩ := pair
    obtain ⟨elements, hstep⟩ := exists_setPosition_getD s key p
    obtain ⟨elements', hrest⟩ := ih ((s.setPosition key p).toOption.getD s)
    refine ⟨elements', ?_⟩
    rw [List.foldl_cons, hrest, hstep]

/-- The surface with its nodes where the positions have them, in a view that fits it. -/
def laidOut (s : Surface) (positions : Dict Position) : Surface :=
  { s with elements := s.elements.map fun a => a.goTo positions[a.id]?, fits := s.fits + 1 }

theorem fit_applyPositions (hnodup : (s.elements.map (·.id)).Nodup) (positions : Dict Position) :
    (s.applyPositions positions).fit = s.laidOut positions := by
  have helements := elements_applyPositions hnodup positions
  obtain ⟨elements, hchanged⟩ := exists_applyPositions s positions
  rw [hchanged] at helements ⊢
  rw [fit, laidOut, ← helements]

end Surface

end Statescope
