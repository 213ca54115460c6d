-- SUMMARY: Which positions a surface has after any calls, and whether it takes them back.
import Statescope.Proofs.Canvas.Positions
import Statescope.Proofs.Oracle.Places
import Statescope.Proofs.Store.Keeping
import Statescope.Session.Drawing

/-!
# Positions after any calls

A surface holds the elements that were loaded last. Its nodes go wherever layouts, drags and
earlier loads put them, and its edges keep the position that they came with. Nodes are the
only elements that get one from the surface, but an edge that comes with a position is saved
with it, and no such position is taken back (`Surface.saves_nodes_iff`).
-/

namespace Statescope

/-! ## Calls -/

inductive SurfaceCall where
  | load (elements : List Element)
  | runLayout (spec : LayoutSpec)
  | setPosition (id : String) (p : Position)
  | addClass (ids : List String) (c : String)
  | removeClass (ids : List String) (c : String)

namespace SurfaceCall

/-- What is loaded has passed the check of snapshots. -/
def IsChecked : SurfaceCall → Prop
  | .load elements => Snapshot.elementsError? elements = none
  | _ => True

instance : DecidablePred IsChecked
  | .load elements => inferInstanceAs (Decidable (Snapshot.elementsError? elements = none))
  | .runLayout _ | .setPosition .. | .addClass .. | .removeClass .. => .isTrue trivial

/-- The elements that were loaded last after the call, if they were `before` it. -/
def loaded (before : List Element) : SurfaceCall → List Element
  | .load elements => elements
  | _ => before

end SurfaceCall

namespace Surface

/-- The surface after a call. A call that fails changes nothing. -/
def perform (s : Surface) : SurfaceCall → Surface
  | .load elements => (s.load elements).toOption.getD s
  | .runLayout spec => s.runLayout spec
  | .setPosition id p => (s.setPosition id p).toOption.getD s
  | .addClass ids c => s.addClass ids c
  | .removeClass ids c => s.removeClass ids c

end Surface

/-! ## Held elements -/

namespace Element

/-- `b` is `a` as a surface holds it: nodes may be anywhere, and classes come and go. -/
structure Held (a b : Element) : Prop where
  alike : Alike a b
  position_eq : a.isNode = false → b.position = a.position

variable {a b c : Element}

theorem Held.of_moved (h : Moved a b) : Held a b := by
  obtain ⟨p, rfl, hp⟩ := h
  exact ⟨⟨rfl, rfl, rfl, rfl⟩, hp⟩

theorem Held.of_classes (a : Element) (classes : Tags) : Held a { a with classes } :=
  ⟨⟨rfl, rfl, rfl, rfl⟩, fun _ => rfl⟩

theorem Held.trans (h : Held a b) (h' : Held b c) : Held a c where
  alike := ⟨h'.alike.id_eq.trans h.alike.id_eq, h'.alike.isNode_eq.trans h.alike.isNode_eq,
    h'.alike.source_eq.trans h.alike.source_eq, h'.alike.target_eq.trans h.alike.target_eq⟩
  position_eq ha := (h'.position_eq (h.alike.isNode_eq.trans ha)).trans (h.position_eq ha)

theorem isNodeOf_iff_of_alike {as bs : List Element} (h : List.Forall₂ Alike as bs) {id : String} :
    IsNodeOf bs id ↔ IsNodeOf as id := by
  refine ⟨?_, fun hid => hid.of_alike h⟩
  rintro ⟨b, hb, hnode, rfl⟩
  obtain ⟨a, ha, hab⟩ := exists_left_of_mem h hb
  exact ⟨a, ha, hab.isNode_eq.symm.trans hnode, hab.id_eq.symm⟩

end Element

namespace Surface

open Element

/-- The surface holds these elements, which are well formed. -/
structure Holds (elements : List Element) (s : Surface) : Prop where
  wellFormed : WellFormed elements
  held : List.Forall₂ Held elements s.elements

variable {s t : Surface} {elements : List Element} {id : String} {p : Position}

theorem Holds.alike (h : Holds elements s) : List.Forall₂ Alike elements s.elements :=
  h.held.imp fun _ _ => Held.alike

theorem Holds.nodup (h : Holds elements s) : (s.elements.map (·.id)).Nodup :=
  (h.wellFormed.of_alike h.alike).nodup

theorem Holds.trans (h : Holds elements s) (hst : List.Forall₂ Held s.elements t.elements) :
    Holds elements t where
  wellFormed := h.wellFormed
  held := forall₂_trans (R := Held) (S := Held) (fun _ _ _ => Held.trans) h.held hst

theorem Holds.moved (h : Holds elements s) (hst : AllMoved s.elements t.elements) :
    Holds elements t :=
  h.trans (hst.imp fun _ _ => Held.of_moved)

theorem holds_empty : Holds [] {} where
  wellFormed := ⟨List.nodup_nil, nofun⟩
  held := .nil

/-- What has been loaded is held, whatever the surface held before. -/
theorem holds_of_load (hload : s.load elements = .ok t) (h : WellFormed elements) :
    Holds elements t := by
  rw [load_of_wellFormed h] at hload
  cases hload
  exact ⟨h, forall₂_map_self fun a _ => Held.of_moved (moved_carryOver s a)⟩

/-- A call keeps what is held, unless it loads something else. -/
theorem Holds.perform (h : Holds elements s) {c : SurfaceCall} (hc : c.IsChecked) :
    Holds (c.loaded elements) (s.perform c) := by
  cases c with
  | load elements' =>
    have hwf : WellFormed elements' := Snapshot.elementsError?_eq_none_iff_wellFormed.1 hc
    have hload := load_of_wellFormed hwf s
    simp only [Surface.perform, hload, Except.toOption, Option.getD_some]
    exact holds_of_load hload hwf
  | runLayout spec => exact h.moved (allMoved_runLayout s spec)
  | setPosition id p =>
    simp only [Surface.perform]
    cases hset : s.setPosition id p with
    | error cause => exact h
    | ok t => exact h.moved (allMoved_setPosition hset)
  | addClass ids c =>
    refine h.trans ?_
    simp only [Surface.perform, elements_addClass h.nodup]
    refine forall₂_map_self fun a _ => ?_
    split
    · exact Held.of_classes a _
    · exact Held.of_moved (Moved.refl a)
  | removeClass ids c =>
    refine h.trans ?_
    simp only [Surface.perform, elements_removeClass h.nodup]
    refine forall₂_map_self fun a _ => ?_
    split
    · exact Held.of_classes a _
    · exact Held.of_moved (Moved.refl a)

/-- The elements that were loaded last are held after any calls. -/
theorem Holds.foldl_perform (h : Holds elements s) {calls : List SurfaceCall}
    (hcalls : ∀ c ∈ calls, c.IsChecked) :
    Holds (calls.foldl SurfaceCall.loaded elements) (calls.foldl Surface.perform s) := by
  induction calls generalizing elements s with
  | nil => exact h
  | cons c calls ih =>
    rw [List.forall_mem_cons] at hcalls
    exact ih (h.perform hcalls.1) hcalls.2

/-! ## Positions -/

theorem getElem?_nodePositions_eq_some_iff (hnodup : (s.elements.map (·.id)).Nodup) :
    s.nodePositions[id]? = some p ↔ ∃ a ∈ s.elements, a.id = id ∧ a.position = some p := by
  rw [nodePositions, Element.getElem?_positions hnodup, Option.bind_eq_bind, Option.bind_eq_some_iff]
  constructor
  · rintro ⟨a, hfound, hp⟩
    exact ⟨a, List.mem_of_find?_eq_some hfound, by simpa using List.find?_some hfound, hp⟩
  · rintro ⟨a, ha, rfl, hp⟩
    exact ⟨a, find?_eq_some_of_mem hnodup ha, hp⟩

/-- The positions of the surface are those of its nodes. -/
def NodesOnly (s : Surface) : Prop :=
  ∀ (id : String) p, s.nodePositions[id]? = some p ↔
    ∃ a ∈ s.elements, a.isNode = true ∧ a.id = id ∧ a.position = some p

/-- On every surface that the elements are loaded on, each of the positions can be set. -/
def TakenBack (elements : List Element) (positions : Dict Position) : Prop :=
  ∀ s t : Surface, s.load elements = .ok t →
    ∃ t', positions.toList.foldlM (fun t entry => t.setPosition entry.1 entry.2) t = .ok t'

/-- Positions can be set one after the other just if all of them are for nodes. -/
theorem exists_foldlM_setPosition_iff (hnodup : (t.elements.map (·.id)).Nodup)
    (pairs : List (String × Position)) :
    (∃ t', pairs.foldlM (fun t entry => t.setPosition entry.1 entry.2) t = .ok t') ↔
      ∀ entry ∈ pairs, IsNodeOf t.elements entry.1 := by
  induction pairs generalizing t with
  | nil => exact iff_of_true ⟨t, rfl⟩ nofun
  | cons entry pairs ih =>
    obtain ⟨id, p⟩ := entry
    rw [List.foldlM_cons, List.forall_mem_cons]
    by_cases hnode : IsNodeOf t.elements id
    · have hset := setPosition_of_isNodeOf hnodup hnode p
      have hmoved := allMoved_setPosition hset
      have hnodup' : ((t.dragged id p).elements.map (·.id)).Nodup := by
        rwa [hmoved.map_id_eq]
      have halike : List.Forall₂ Alike t.elements (t.dragged id p).elements :=
        hmoved.imp fun _ _ => Moved.alike
      simp only [hset, bind, Except.bind, ih hnodup', isNodeOf_iff_of_alike halike, hnode, true_and]
    · obtain ⟨cause, hset⟩ := setPosition_of_not_isNodeOf hnode p
      simp [hset, hnode, bind, Except.bind]

/-- An edge that is held has a position just if it came with it. -/
theorem Holds.exists_edge_iff (h : Holds elements s) :
    (∃ a ∈ s.elements, a.isNode = false ∧ a.id = id ∧ a.position = some p) ↔
      ∃ a ∈ elements, a.isNode = false ∧ a.id = id ∧ a.position = some p := by
  constructor
  · rintro ⟨b, hb, hedge, rfl, hp⟩
    obtain ⟨a, ha, hab⟩ := exists_left_of_mem h.held hb
    have hedge' : a.isNode = false := hab.alike.isNode_eq.symm.trans hedge
    exact ⟨a, ha, hedge', hab.alike.id_eq.symm, (hab.position_eq hedge').symm.trans hp⟩
  · rintro ⟨a, ha, hedge, rfl, hp⟩
    obtain ⟨b, hb, hab⟩ := exists_right_of_mem h.held ha
    exact ⟨b, hb, hab.alike.isNode_eq.trans hedge, hab.alike.id_eq,
      (hab.position_eq hedge).trans hp⟩

/-- No edge has the id of a node. -/
theorem Holds.not_isNodeOf (h : Holds elements s) {edge : Element} (hmem : edge ∈ elements)
    (hedge : edge.isNode = false) : ¬ IsNodeOf elements edge.id := by
  rintro ⟨a, ha, hnode, hid⟩
  rw [h.wellFormed.eq_of_id_eq ha hmem hid, hedge] at hnode
  cases hnode

/-- If no edge has come with a position, what has one is a node. -/
theorem Holds.isNode_of_position (h : Holds elements s)
    (hedges : ∀ edge ∈ elements, edge.isNode = false → edge.position = none) {a : Element}
    (ha : a ∈ s.elements) (hp : a.position = some p) : a.isNode = true := by
  by_contra hnode
  obtain ⟨edge, hmem, hedge, -, hp'⟩ :=
    h.exists_edge_iff.1 ⟨a, ha, Bool.eq_false_iff.2 hnode, rfl, hp⟩
  rw [hedges edge hmem hedge] at hp'
  cases hp'

/-- All that has a position belongs to a node just if no edge has come with one. -/
theorem Holds.positions_iff (h : Holds elements s) :
    (∀ (id : String) p, s.nodePositions[id]? = some p → IsNodeOf elements id) ↔
      ∀ edge ∈ elements, edge.isNode = false → edge.position = none := by
  constructor
  · intro hnodes edge hmem hedge
    rw [Option.eq_none_iff_forall_ne_some]
    intro p hp
    obtain ⟨a, ha, -, hid, hp'⟩ := h.exists_edge_iff.2 ⟨edge, hmem, hedge, rfl, hp⟩
    have hfound := (getElem?_nodePositions_eq_some_iff h.nodup).2 ⟨a, ha, hid, hp'⟩
    exact h.not_isNodeOf hmem hedge (hnodes edge.id p hfound)
  · intro hedges id p hfound
    obtain ⟨a, ha, hid, hp⟩ := (getElem?_nodePositions_eq_some_iff h.nodup).1 hfound
    exact (isNodeOf_iff_of_alike h.alike).1 ⟨a, ha, h.isNode_of_position hedges ha hp, hid⟩

theorem Holds.nodesOnly_iff (h : Holds elements s) :
    NodesOnly s ↔ ∀ edge ∈ elements, edge.isNode = false → edge.position = none := by
  constructor
  · intro hnodes
    refine h.positions_iff.1 fun id p hfound => ?_
    obtain ⟨a, ha, hnode, hid, -⟩ := (hnodes id p).1 hfound
    exact (isNodeOf_iff_of_alike h.alike).1 ⟨a, ha, hnode, hid⟩
  · intro hedges id p
    rw [getElem?_nodePositions_eq_some_iff h.nodup]
    constructor
    · rintro ⟨a, ha, hid, hp⟩
      exact ⟨a, ha, h.isNode_of_position hedges ha hp, hid, hp⟩
    · rintro ⟨a, ha, -, hid, hp⟩
      exact ⟨a, ha, hid, hp⟩

theorem Holds.takenBack_iff (h : Holds elements s) :
    TakenBack elements s.nodePositions ↔
      ∀ edge ∈ elements, edge.isNode = false → edge.position = none := by
  have hset {s' t : Surface} (hload : s'.load elements = .ok t) :
      (∃ t', s.nodePositions.toList.foldlM (fun t entry => t.setPosition entry.1 entry.2) t = .ok t')
        ↔ ∀ (id : String) p, s.nodePositions[id]? = some p → IsNodeOf elements id := by
    have ht := holds_of_load hload h.wellFormed
    rw [exists_foldlM_setPosition_iff ht.nodup]
    simp only [isNodeOf_iff_of_alike ht.alike, Prod.forall,
      Std.ExtTreeMap.mem_toList_iff_getElem?_eq_some]
  rw [← h.positions_iff]
  constructor
  · intro htaken
    have hload := load_of_wellFormed h.wellFormed {}
    exact (hset hload).1 (htaken _ _ hload)
  · intro hpositions s' t hload
    exact (hset hload).2 hpositions

/-! ## Saved positions -/

/-- After any calls, a surface has the positions of its elements, and what is loaded of a layout
that has been saved is these positions. They belong to nodes alone, and are all taken back where
the same elements are loaded, exactly if no edge of the elements came with a position. -/
theorem saves_nodes_iff [BlobStore σ] [KeepingStore σ] (calls : List SurfaceCall)
    (hcalls : ∀ c ∈ calls, c.IsChecked) :
    let s := calls.foldl Surface.perform {}
    let elements := calls.foldl SurfaceCall.loaded []
    (∀ (id : String) p, s.nodePositions[id]? = some p ↔
      ∃ a ∈ s.elements, a.id = id ∧ a.position = some p) ∧
    (∀ (d : Drawing) (store store' : LayoutStore σ) saved, d.surface = s →
      d.saveLayout store = (.ok (), store') → (store'.load d.fingerprint).1 = some saved →
        saved = s.nodePositions) ∧
    (NodesOnly s ↔ ∀ edge ∈ elements, edge.isNode = false → edge.position = none) ∧
    (TakenBack elements s.nodePositions ↔
      ∀ edge ∈ elements, edge.isNode = false → edge.position = none) := by
  intro s elements
  have hholds : Holds elements s := holds_empty.foldl_perform hcalls
  refine ⟨fun id p => getElem?_nodePositions_eq_some_iff hholds.nodup, ?_, hholds.nodesOnly_iff,
    hholds.takenBack_iff⟩
  intro d store store' saved hd hsave hload
  rw [Drawing.saveLayout, hd] at hsave
  exact LayoutStore.eq_of_load_of_save hsave hload

/-- A node, and an edge from it to itself that may come with a position. -/
def loop (p? : Option Position) : List Element :=
  [{ id := "a", kind := .state },
    { id := "e", kind := .connector, source := some "a", target := some "a", position := p? }]

theorem saves_nodes_iff_of_drag :
    let calls := [.load (loop none), .setPosition "a" ⟨3, 4⟩, .addClass ["a", "e"] "c"]
    let s := calls.foldl Surface.perform {}
    (∀ c ∈ calls, c.IsChecked) ∧ s.nodePositions = Dict.ofPairs [("a", ⟨3, 4⟩)] ∧ NodesOnly s ∧
    TakenBack (loop none) s.nodePositions := by
  intro calls s
  have hcalls : ∀ c ∈ calls, c.IsChecked := by decide
  have hedges : ∀ edge ∈ loop none, edge.isNode = false → edge.position = none := by decide
  obtain ⟨-, -, hnodes, htaken⟩ := saves_nodes_iff (σ := MemoryStore) calls hcalls
  exact ⟨hcalls, by decide +kernel, hnodes.2 hedges, htaken.2 hedges⟩

theorem saves_edge_of_position :
    let elements := loop (some ⟨1, 2⟩)
    let s := ({} : Surface).perform (.load elements)
    Snapshot.elementsError? elements = none ∧
    s.nodePositions = Dict.ofPairs [("e", ⟨1, 2⟩)] ∧ ¬ NodesOnly s ∧
    (s.setPosition "e" ⟨1, 2⟩).toOption = none ∧ ¬ TakenBack elements s.nodePositions := by
  intro elements s
  have hload : ({} : Surface).load elements = .ok s := by rfl
  have hpositions : s.nodePositions = Dict.ofPairs [("e", ⟨1, 2⟩)] := by decide +kernel
  have hfound : s.nodePositions["e"]? = some ⟨1, 2⟩ := by decide +kernel
  have hnone : ∀ a ∈ s.elements, a.isNode = true → a.id ≠ "e" := by decide +kernel
  refine ⟨by decide, hpositions, fun hnodes => ?_, by decide +kernel, fun htaken => ?_⟩
  · obtain ⟨a, ha, hnode, hid, -⟩ := (hnodes "e" ⟨1, 2⟩).1 hfound
    exact hnone a ha hnode hid
  · have hnodup : (s.elements.map (·.id)).Nodup := by decide +kernel
    have hset := (exists_foldlM_setPosition_iff hnodup _).1 (htaken {} s hload)
    obtain ⟨a, ha, hnode, hid⟩ := hset _ (Std.ExtTreeMap.mem_toList_iff_getElem?_eq_some.2 hfound)
    exact hnone a ha hnode hid

end Surface

end Statescope
