-- SUMMARY: What the operations of a surface can change: well-formed lists are loaded, nodes move, classes come and go.
import Statescope.Canvas.Surface
import Statescope.Proofs.Graph.WellFormed

/-!
# Operations of a surface

Every well-formed list of elements can be loaded. Loading, layouts and drags may
move nodes and leave all else as it is; classes are added and removed exactly at
the elements that are named.
-/

namespace Statescope

/-! ## Moving nodes -/

namespace Element

/-- `b` is `a`, except that a node may be somewhere else. -/
def Moved (a b : Element) : Prop :=
  ∃ p, b = { a with position := p } ∧ (a.isNode = false → p = a.position)

theorem Moved.refl (a : Element) : Moved a a := ⟨a.position, rfl, fun _ => rfl⟩

theorem Moved.trans {a b c : Element} (hab : Moved a b) (hbc : Moved b c) : Moved a c := by
  obtain ⟨p, rfl, hp⟩ := hab
  obtain ⟨q, rfl, hq⟩ := hbc
  exact ⟨q, rfl, fun ha => (hq ha).trans (hp ha)⟩

theorem moved_of_isNode {a : Element} (ha : a.isNode = true) (p : Option Position) :
    Moved a { a with position := p } :=
  ⟨p, rfl, fun h => by rw [ha] at h; cases h⟩

theorem Moved.alike {a b : Element} (h : Moved a b) : Alike a b := by
  obtain ⟨p, rfl, -⟩ := h
  exact ⟨rfl, rfl, rfl, rfl⟩

/-- Lists that differ only in the places of nodes. -/
abbrev AllMoved : List Element → List Element → Prop := List.Forall₂ Moved

theorem AllMoved.refl (es : List Element) : AllMoved es es :=
  List.forall₂_same.2 fun e _ => Moved.refl e

theorem AllMoved.trans {as bs cs : List Element} (hab : AllMoved as bs) (hbc : AllMoved bs cs) :
    AllMoved as cs := by
  refine forall₂_trans (R := Moved) (S := Moved) ?_ hab hbc
  intro a b c
  exact Moved.trans

theorem AllMoved.map_id_eq {as bs : List Element} (h : AllMoved as bs) :
    bs.map (·.id) = as.map (·.id) :=
  map_eq_of_forall₂ h fun _ _ hab => hab.alike.id_eq

/-- Moving nodes keeps a list well formed. -/
theorem AllMoved.wellFormed {as bs : List Element} (h : AllMoved as bs) (hwf : WellFormed as) :
    WellFormed bs :=
  hwf.of_alike (h.imp fun _ _ => Moved.alike)

end Element

namespace Surface

open Element

/-! ## Loading -/

theorem endsAmong_eq_true_iff {elements : List Element} {edge : Element} :
    endsAmong (nodeIds elements) edge = true ↔ Joins elements edge := by
  unfold endsAmong Joins
  rw [Bool.and_eq_true, Option.any_eq_true, Option.any_eq_true]
  simp only [contains_nodeIds]
  constructor
  · rintro ⟨⟨source, hsource, hs⟩, target, htarget, ht⟩
    exact ⟨source, target, hsource, htarget, hs, ht⟩
  · rintro ⟨source, target, hsource, htarget, hs, ht⟩
    exact ⟨⟨source, hsource, hs⟩, target, htarget, ht⟩

/-- A well-formed list is loaded, whatever the surface holds. -/
theorem load_of_wellFormed {elements : List Element} (h : WellFormed elements) (s : Surface) :
    s.load elements
      = .ok { s with elements := elements.map s.carryOver, loads := s.loads + 1 } := by
  have hnone : (elements.filter (!·.isNode)).find? (!endsAmong (nodeIds elements) ·) = none := by
    apply List.find?_eq_none.2
    intro edge hedge
    rw [List.mem_filter, Bool.not_eq_true'] at hedge
    simpa using endsAmong_eq_true_iff.2 (h.joined edge hedge.1 hedge.2)
  unfold load
  simp only [hnone]

theorem moved_carryOver (s : Surface) (e : Element) : Moved e (s.carryOver e) := by
  unfold carryOver
  split
  · rename_i h
    rw [Bool.and_eq_true] at h
    exact moved_of_isNode h.1 _
  · exact Moved.refl e

/-! ## Arranging -/

theorem allMoved_arrange (spec : LayoutSpec) (i : Nat) (es : List Element) :
    AllMoved es (arrange spec i es) := by
  induction es generalizing i with
  | nil => exact .nil
  | cons e es ih =>
    unfold arrange
    split
    · exact .cons (moved_of_isNode ‹_› _) (ih _)
    · exact .cons (Moved.refl e) (ih _)

@[simp] theorem elements_runLayout (s : Surface) (spec : LayoutSpec) :
    (s.runLayout spec).elements = arrange spec 0 s.elements := by
  unfold runLayout
  simp only
  split <;> rfl

theorem allMoved_runLayout (s : Surface) (spec : LayoutSpec) :
    AllMoved s.elements (s.runLayout spec).elements := by
  rw [elements_runLayout]
  exact allMoved_arrange spec 0 s.elements

theorem allMoved_setPosition {s s' : Surface} {id : String} {p : Position}
    (h : s.setPosition id p = .ok s') : AllMoved s.elements s'.elements := by
  unfold setPosition at h
  split at h
  · cases h
  · rename_i e he
    split at h
    · cases h
      apply forall₂_modifyFirst Moved.refl
      intro a ha
      rw [element?, ha] at he
      cases he
      exact moved_of_isNode ‹_› _
    · cases h

theorem allMoved_applyPositions (s : Surface) (positions : Dict Position) :
    AllMoved s.elements (s.applyPositions positions).elements := by
  unfold applyPositions
  induction positions.toList generalizing s with
  | nil => exact AllMoved.refl _
  | cons entry entries ih =>
    obtain ⟨id, p⟩ := entry
    rw [List.foldl_cons]
    cases h : s.setPosition id p with
    | error cause => simpa [h, Except.toOption] using ih s
    | ok s' => simpa [h, Except.toOption] using (allMoved_setPosition h).trans (ih s')

/-! ## Classes -/

theorem elements_addClass {s : Surface} (h : (s.elements.map (·.id)).Nodup) (ids : List String)
    (c : String) :
    (s.addClass ids c).elements = s.elements.map fun e =>
      if e.id ∈ ids then { e with classes := e.classes.insert c } else e := by
  refine foldl_modifyFirst_eq_map (f := fun e => { e with classes := e.classes.insert c })
    h (fun _ => rfl) (fun e => ?_) ids
  -- The same id may be named twice.
  have : (e.classes.insert c).insert c = e.classes.insert c :=
    Std.ExtTreeSet.ext_mem fun t => by simp only [Tags.mem_insert_iff, or_self_left]
  simp only [this]

theorem elements_removeClass {s : Surface} (h : (s.elements.map (·.id)).Nodup) (ids : List String)
    (c : String) :
    (s.removeClass ids c).elements = s.elements.map fun e =>
      if e.id ∈ ids then { e with classes := e.classes.erase c } else e := by
  refine foldl_modifyFirst_eq_map (f := fun e => { e with classes := e.classes.erase c })
    h (fun _ => rfl) (fun e => ?_) ids
  have : (e.classes.erase c).erase c = e.classes.erase c :=
    Std.ExtTreeSet.ext_mem fun t => by simp only [Tags.mem_erase_iff, and_self_left]
  simp only [this]

theorem mem_of_element? {s : Surface} {id : String} {e : Element} (h : s.element? id = some e) :
    e ∈ s.elements ∧ e.id = id :=
  ⟨List.mem_of_find?_eq_some h, by simpa using List.find?_some h⟩

theorem contains_eq_decide_mem (s : Surface) (id : String) :
    s.contains id = decide (id ∈ s.elements.map (·.id)) := by
  rw [Bool.eq_iff_iff, decide_eq_true_iff, contains, element?, List.find?_isSome]
  simp

/-- Where ids are not repeated, an element is found by its id. -/
theorem element?_eq_some_iff {s : Surface} (hnodup : (s.elements.map (·.id)).Nodup) {id : String}
    {e : Element} : s.element? id = some e ↔ e ∈ s.elements ∧ e.id = id := by
  refine ⟨mem_of_element?, ?_⟩
  rintro ⟨hmem, rfl⟩
  exact find?_eq_some_of_mem hnodup hmem

end Surface

end Statescope
