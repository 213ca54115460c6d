-- SUMMARY: Where an oracle places each node, and whether it places any.
import Statescope.Proofs.Canvas.Positions
import Statescope.Proofs.Dict
import Statescope.Proofs.Oracle.Placement

/-!
# Places by an oracle

An oracle comes first, then the position that a node has itself, then the middle between
two neighbours. `elements_place` says so for each element of a well-formed list by itself,
without the dictionaries that a placement goes through.
-/

namespace Statescope

open Element

theorem Element.getElem?_positions {elements : List Element}
    (hnodup : (elements.map (·.id)).Nodup) (id : String) :
    (positions elements)[id]? = elements.find? (·.id = id) >>= (·.position) :=
  Dict.getElem?_ofPairs_filterMap hnodup id

namespace PositionOracle

/-! ## Places -/

/-- Where an element is when the oracle has placed what it knows. -/
def known? (o : PositionOracle) (a : Element) : Option Position := (o.find? a).or a.position

/-- Where the element with this id is by then. -/
def knownAt? (o : PositionOracle) (elements : List Element) (id : String) : Option Position :=
  elements.find? (·.id = id) >>= o.known?

/-- Halfway between the source of the first edge into an action and the target of the first
edge out of it, if both are placed by then. -/
def halfway? (o : PositionOracle) (elements : List Element) (a : Element) : Option Position := do
  guard (a.kind = .action)
  let incoming ← elements.find? fun edge => !edge.isNode && edge.target = some a.id
  let outgoing ← elements.find? fun edge => !edge.isNode && edge.source = some a.id
  return (← incoming.source >>= o.knownAt? elements).midpoint
    (← outgoing.target >>= o.knownAt? elements)

/-- Where a node goes: where the oracle has it, else where it is, else halfway. -/
def placeOf? (o : PositionOracle) (elements : List Element) (a : Element) : Option Position :=
  (o.known? a).or (o.halfway? elements a)

/-- Whether the oracle has one of the elements, or one goes halfway. -/
def places (o : PositionOracle) (elements : List Element) : Bool :=
  elements.any fun a => (o.find? a).isSome || (a.position.isNone && (o.halfway? elements a).isSome)

variable {o : PositionOracle} {elements : List Element} {a : Element}

theorem find?_eq_none (o : PositionOracle) (hedge : a.isNode = false) : o.find? a = none := by
  cases hkind : a.kind <;> simp [find?, hkind, isNode] at hedge ⊢

theorem halfway?_eq_none (o : PositionOracle) (elements : List Element) (hedge : a.isNode = false) :
    o.halfway? elements a = none := by
  cases hkind : a.kind <;> simp [halfway?, hkind, isNode] at hedge ⊢

/-- A node that is somewhere goes somewhere. -/
theorem placeOf?_or_position (o : PositionOracle) (elements : List Element) (a : Element) :
    (o.placeOf? elements a).or a.position = o.placeOf? elements a := by
  unfold placeOf? known?
  cases o.find? a <;> cases a.position <;> simp

/-! ## What is known -/

theorem placeKnown_eq (o : PositionOracle) (a : Element) :
    o.placeKnown a = { a with position := o.known? a } := by
  unfold placeKnown known?
  split
  · rw [‹o.find? a = some _›, Option.some_or]
  · rw [‹o.find? a = none›, Option.none_or]

@[simp] theorem id_placeKnown (o : PositionOracle) (a : Element) : (o.placeKnown a).id = a.id := by
  rw [placeKnown_eq]

theorem map_id_placeKnown (o : PositionOracle) (elements : List Element) :
    (elements.map o.placeKnown).map (·.id) = elements.map (·.id) := by
  rw [List.map_map]
  exact List.map_congr_left fun a _ => o.id_placeKnown a

theorem getElem?_positions_placeKnown (hnodup : (elements.map (·.id)).Nodup) (id : String) :
    (positions (elements.map o.placeKnown))[id]? = o.knownAt? elements id := by
  rw [getElem?_positions (by rwa [map_id_placeKnown]), List.find?_map, knownAt?]
  simp only [Function.comp_def, id_placeKnown]
  cases elements.find? (·.id = id) with
  | none => rfl
  | some a => simp [placeKnown_eq]

/-! ## Midpoints -/

/-- The ends of an edge, if it has both. -/
def ends? (a : Element) : Option (String × String) :=
  if a.isNode then none else a.source >>= fun source => a.target.map fun target => (source, target)

theorem connections_eq (elements : List Element) :
    connections elements = elements.filterMap ends? := by
  rw [connections]
  congr 1
  funext a
  cases hkind : a.kind <;> cases hsource : a.source <;> cases htarget : a.target <;>
    simp [ends?, isNode, hkind, hsource, htarget]

@[simp] theorem connections_placeKnown (o : PositionOracle) (elements : List Element) :
    connections (elements.map o.placeKnown) = connections elements := by
  rw [connections_eq, connections_eq, List.filterMap_map]
  congr 1
  funext a
  rw [Function.comp_apply, placeKnown_eq]
  rfl

/-- What is asked of the ends of an edge can be asked of the edge: in a well-formed list
every edge has both. -/
theorem find?_connections (h : WellFormed elements) {p : String × String → Bool}
    {q : Element → Bool} (hpq : ∀ edge source target, edge.source = some source →
      edge.target = some target → p (source, target) = q edge) :
    (connections elements).find? p = elements.find? (fun edge => !edge.isNode && q edge) >>= ends? := by
  have hasked : elements.find? (fun edge => (ends? edge).any p)
      = elements.find? fun edge => !edge.isNode && q edge := by
    apply List.find?_congr
    intro edge hmem
    cases hedge : edge.isNode with
    | true => simp [ends?, hedge]
    | false =>
      obtain ⟨source, target, hsource, htarget, -⟩ := h.joined edge hmem hedge
      simp [ends?, hedge, hsource, htarget, hpq edge source target hsource htarget]
  rw [connections_eq, List.find?_filterMap, hasked]
  rfl

/-- An edge that has been found among well-formed elements has both ends. -/
theorem ends?_of_find? (h : WellFormed elements) {q : Element → Bool} {edge : Element}
    (hfound : elements.find? (fun edge => !edge.isNode && q edge) = some edge) :
    ∃ source target, edge.source = some source ∧ edge.target = some target ∧
      ends? edge = some (source, target) := by
  have hedge : edge.isNode = false := by
    have := List.find?_some hfound
    rw [Bool.and_eq_true, Bool.not_eq_true'] at this
    exact this.1
  obtain ⟨source, target, hsource, htarget, -⟩ :=
    h.joined edge (List.mem_of_find?_eq_some hfound) hedge
  exact ⟨source, target, hsource, htarget, by simp [ends?, hedge, hsource, htarget]⟩

/-- The middle that a placement looks up is halfway between the neighbours. -/
theorem midpoint?_placeKnown (h : WellFormed elements) (a : Element) :
    midpoint? (elements.map o.placeKnown) (o.placeKnown a) = o.halfway? elements a := by
  have hincoming : (connections elements).find? (·.2 = a.id)
      = elements.find? (fun edge => !edge.isNode && edge.target = some a.id) >>= ends? :=
    find?_connections h fun edge source target _ htarget => by simp [htarget]
  have houtgoing : (connections elements).find? (·.1 = a.id)
      = elements.find? (fun edge => !edge.isNode && edge.source = some a.id) >>= ends? :=
    find?_connections h fun edge source target hsource _ => by simp [hsource]
  simp only [midpoint?, halfway?, connections_placeKnown, id_placeKnown,
    getElem?_positions_placeKnown h.nodup, hincoming, houtgoing]
  have hkind : (o.placeKnown a).kind = a.kind := by rw [placeKnown_eq]
  rw [hkind]
  cases hin : elements.find? fun edge => !edge.isNode && edge.target = some a.id with
  | none => rfl
  | some incoming =>
    obtain ⟨source, _, hsource, _, hends⟩ := ends?_of_find? h hin
    cases hout : elements.find? fun edge => !edge.isNode && edge.source = some a.id with
    | none => simp [hends]
    | some outgoing =>
      obtain ⟨_, target, _, htarget, hends'⟩ := ends?_of_find? h hout
      simp [hends, hends', hsource, htarget]

/-! ## The placement -/

theorem getElem?_midpoints (hnodup : (elements.map (·.id)).Nodup) (ha : a ∈ elements) :
    (midpoints elements)[a.id]? = if needsPosition a then midpoint? elements a else none := by
  have hfiltered : ((elements.filter needsPosition).map (·.id)).Nodup :=
    hnodup.sublist (List.filter_sublist.map _)
  rw [midpoints, Dict.getElem?_ofPairs_filterMap hfiltered]
  split
  · rename_i hneeds
    rw [find?_eq_some_of_mem hfiltered (List.mem_filter.2 ⟨ha, hneeds⟩)]
    rfl
  · rename_i hneeds
    have hnone : (elements.filter needsPosition).find? (·.id = a.id) = none := by
      rw [List.find?_eq_none]
      intro b hb hid
      obtain ⟨hb, hneeds'⟩ := List.mem_filter.1 hb
      rw [List.inj_on_of_nodup_map hnodup hb ha (of_decide_eq_true hid)] at hneeds'
      exact hneeds hneeds'
    rw [hnone]
    rfl

/-- The place halfway is for nodes that the oracle does not have and that are nowhere yet. -/
theorem getElem?_midpoints_placeKnown (h : WellFormed elements) (ha : a ∈ elements) :
    (midpoints (elements.map o.placeKnown))[a.id]?
      = if (o.known? a).isNone then o.halfway? elements a else none := by
  have hnodup : ((elements.map o.placeKnown).map (·.id)).Nodup := by
    rw [map_id_placeKnown]
    exact h.nodup
  have hentry := getElem?_midpoints hnodup (List.mem_map_of_mem ha)
  rw [id_placeKnown, midpoint?_placeKnown h] at hentry
  rw [hentry, needsPosition, placeKnown_eq]
  cases hnode : a.isNode with
  | false => simp [halfway?_eq_none o elements hnode]
  | true =>
    simp only [isNode] at hnode
    simp [isNode, hnode]

theorem placeMidpoint_eq (midpoints : Dict Position) (a : Element) :
    placeMidpoint midpoints a = { a with position := midpoints[a.id]?.or a.position } := by
  unfold placeMidpoint
  split
  · rw [‹midpoints[a.id]? = some _›, Option.some_or]
  · rw [‹midpoints[a.id]? = none›, Option.none_or]

/-- A placement puts each node where it goes and leaves the edges. -/
theorem elements_place (h : WellFormed elements) (o : PositionOracle) :
    (o.place elements).1 = elements.map fun a => a.goTo (o.placeOf? elements a) := by
  simp only [place, List.map_map]
  apply List.map_congr_left
  intro a ha
  rw [Function.comp_apply, placeMidpoint_eq, id_placeKnown, getElem?_midpoints_placeKnown h ha,
    placeKnown_eq]
  cases hnode : a.isNode with
  | false => simp [goTo, hnode, known?, find?_eq_none o hnode, halfway?_eq_none o elements hnode]
  | true =>
    rw [goTo, if_pos hnode, placeOf?_or_position, placeOf?]
    cases o.known? a <;> simp

/-- A placement has placed some node if the oracle has a place for one. -/
theorem anyPlaced_place (h : WellFormed elements) (o : PositionOracle) :
    (o.place elements).2.anyPlaced = o.places elements := by
  have hplaced (a : Element) (ha : a ∈ elements) :
      ((o.find? a).isSome || (a.position.isNone && (o.halfway? elements a).isSome)) = true
        ↔ (o.find? a).isSome = true ∨
          (midpoints (elements.map o.placeKnown)).contains (o.placeKnown a).id = true := by
    rw [← Std.ExtTreeMap.isSome_getElem?_eq_contains, id_placeKnown,
      getElem?_midpoints_placeKnown h ha, known?]
    cases o.find? a <;> cases a.position <;> simp
  rw [Bool.eq_iff_iff, places, List.any_eq_true, Placement.anyPlaced, decide_eq_true_iff]
  simp only [place, Nat.add_pos_iff_pos_or_pos, List.length_filter_pos_iff, List.mem_map,
    exists_exists_and_eq_and]
  rw [← exists_or]
  refine exists_congr fun a => ?_
  rw [← and_or_left]
  exact and_congr_right fun ha => (hplaced a ha).symm

/-- Where the oracle places nothing, nothing is changed. -/
theorem elements_place_of_not_places (h : WellFormed elements)
    (hplaces : o.places elements = false) : (o.place elements).1 = elements := by
  rw [elements_place h]
  refine (List.map_congr_left fun a ha => ?_).trans (List.map_id _)
  have hunknown := List.any_eq_false.1 hplaces a ha
  have hplace : o.placeOf? elements a = a.position := by
    cases hfind : o.find? a <;> cases hposition : a.position <;>
      simp_all [placeOf?, known?]
  rw [hplace, goTo, Option.or_self]
  split <;> rfl

end PositionOracle

end Statescope
