-- SUMMARY: Where each node of a drawing starts: as saved, else by the oracle, else by the layout.
import Statescope.Proofs.Oracle.Places
import Statescope.Proofs.Session.Drawing

/-!
# Starts of drawings

The first snapshot of a drawing goes through an oracle, a layout and a saved layout, each
of which may move nodes that have been placed before. `elements_first` says what comes of
it for each node by itself.
-/

namespace Statescope

open Element Surface

namespace Surface

/-- A surface with nothing on it has no positions to take over. -/
@[simp] theorem carryOver_of_nil {s : Surface} (h : s.elements = []) (a : Element) : s.carryOver a = a := by
  unfold carryOver
  split
  · rename_i hneeds
    rw [Bool.and_eq_true, Option.isNone_iff_eq_none] at hneeds
    have hnone : s.position? a.id = a.position := by
      rw [position?, element?, h, hneeds.2]
      rfl
    rw [hnone]
  · rfl

/-- A layout goes by the place of a node among the nodes. -/
theorem arrange_eq (spec : LayoutSpec) (i : Nat) {es : List Element}
    (hnodup : (es.map (·.id)).Nodup) : arrange spec i es = es.map fun a =>
      a.goTo (some (arranged spec (i + (es.filter (·.isNode)).idxOf a) a.position)) := by
  induction es generalizing i with
  | nil => rfl
  | cons e es ih =>
    have hne (a : Element) (ha : a ∈ es) : e ≠ a := by
      rintro rfl
      exact (List.nodup_cons.1 hnodup.of_map).1 ha
    have hrest := (List.nodup_cons.1 hnodup).2
    rw [arrange, List.map_cons]
    split
    · rename_i hnode
      rw [goTo_of_isNode hnode, ih _ hrest, List.filter_cons_of_pos hnode, List.idxOf_cons_self]
      congr 1
      apply List.map_congr_left
      intro a ha
      rw [List.idxOf_cons_ne _ (hne a ha), Nat.succ_eq_add_one, Nat.add_right_comm, Nat.add_assoc]
    · rename_i hedge
      rw [ih _ hrest, List.filter_cons_of_neg hedge, goTo, if_neg hedge]

end Surface

namespace Drawing

/-! ## Oracles -/

/-- Whether an oracle decides where nodes start: it has arrived with something in it, and
has a place for one of them. -/
def decides (elements : List Element) (o : PositionOracle) : Bool :=
  !o.isEmpty && o.places elements

theorem placed_of_decides {elements : List Element} (h : WellFormed elements) {o : PositionOracle}
    (ho : decides elements o = true) :
    placed (some o) elements = (elements.map fun a => a.goTo (o.placeOf? elements a), true) := by
  rw [decides, Bool.and_eq_true, Bool.not_eq_true'] at ho
  simp only [placed, ho.1, Bool.false_eq_true, if_false]
  rw [o.anyPlaced_place h, ho.2, o.elements_place h]

theorem placed_of_filter_eq_none {elements : List Element} (h : WellFormed elements)
    {oracle : Option PositionOracle} (ho : oracle.filter (decides elements) = none) :
    placed oracle elements = (elements, false) := by
  cases oracle with
  | none => rfl
  | some o =>
    simp only [placed]
    split
    · rfl
    · rename_i hempty
      have hplaces : o.places elements = false := by
        simpa [decides, Option.filter_some, hempty] using ho
      rw [o.anyPlaced_place h, hplaces, PositionOracle.elements_place_of_not_places h hplaces]

/-! ## Starts -/

/-- Where a node starts: where it has been saved, else where the oracle puts it if that
decides, else by the layout to fall back on. -/
def startPosition (saved : Option SavedLayout) (oracle : Option PositionOracle)
    (fallback : LayoutKind) (elements : List Element) (a : Element) : Position :=
  (saved >>= (·[a.id]?)).getD <|
    match oracle.filter (decides elements) with
    | some o => (o.placeOf? elements a).getD .origin
    | none =>
      Surface.arranged (.ofKind fallback) ((elements.filter (·.isNode)).idxOf a) a.position

section First

variable [BlobStore σ] {s : Snapshot} {oracle : Option PositionOracle} {options : DrawingOptions}
  {store : LayoutStore σ} {d : Drawing}

theorem elements_restore (hnodup : (d.surface.elements.map (·.id)).Nodup) :
    (d.restore store).2.1.surface.elements = d.surface.elements.map fun a =>
      a.goTo ((store.load d.fingerprint).1 >>= (·[a.id]?)) := by
  unfold restore
  split
  · rename_i saved store' hload
    rw [hload]
    exact elements_applyPositions hnodup saved
  · rename_i store' hload
    rw [hload]
    refine ((List.map_congr_left fun a _ => ?_).trans (List.map_id _)).symm
    exact goTo_none a

/-- Where the nodes are before a saved layout is looked for. -/
theorem elements_arranged (h : WellFormed s.elements) {surface : Surface}
    (hload : ({} : Surface).load (placed oracle s.elements).1 = .ok surface) (fallback : LayoutKind) :
    (surface.runLayout (.ofKind
        (if (placed oracle s.elements).2 then .preset else fallback))).elements
      = s.elements.map fun a => a.goTo (some (startPosition none oracle fallback s.elements a)) := by
  have hplaced := allMoved_placed oracle h
  rw [load_of_wellFormed (hplaced.wellFormed h)] at hload
  cases hload
  have hloaded : (placed oracle s.elements).1.map ({} : Surface).carryOver
      = (placed oracle s.elements).1 :=
    (List.map_congr_left fun a _ => carryOver_of_nil rfl a).trans (List.map_id _)
  rw [elements_runLayout]
  simp only [hloaded]
  rw [arrange_eq _ _ (hplaced.wellFormed h).nodup]
  cases ho : oracle.filter (decides s.elements) with
  | none =>
    rw [placed_of_filter_eq_none h ho]
    simp [startPosition, ho]
  | some o =>
    obtain ⟨rfl, hdecides⟩ := Option.filter_eq_some_iff.1 ho
    rw [placed_of_decides h hdecides, List.map_map]
    apply List.map_congr_left
    intro a _
    rw [Function.comp_apply, goTo_goTo, startPosition, ho]
    cases hnode : a.isNode with
    | false => simp [goTo, hnode]
    | true => simp [goTo, hnode, arranged, PositionOracle.placeOf?_or_position]

/-- The nodes of a first snapshot start at their places, and its edges are as they are. -/
theorem elements_first (h : WellFormed s.elements) {restored : Bool}
    (hd : (first {} s oracle options store).1 = .ok (restored, d)) :
    d.surface.elements = s.elements.map fun a => a.goTo (some (startPosition
      (store.load (.ofElements s.elements)).1 oracle options.fallback s.elements a)) := by
  unfold first at hd
  simp only at hd
  split at hd
  · cases hd
  · rename_i surface hload
    cases hd
    have harranged := elements_arranged h hload options.fallback
    rw [elements_restore]
    · rw [harranged, List.map_map]
      apply List.map_congr_left
      intro a _
      rw [Function.comp_apply, goTo_goTo, id_goTo, Option.or_some]
      rfl
    · rw [harranged, map_id_goTo]
      exact h.nodup

end First

end Drawing

end Statescope
