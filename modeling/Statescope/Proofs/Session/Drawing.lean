-- SUMMARY: A drawing shows the snapshot it was made from, whatever is moved, highlighted or expired afterwards.
import Statescope.Proofs.Oracle.Placement
import Statescope.Proofs.Session.Flash

/-!
# Drawings show snapshots

`Drawing.Shows` relates a drawing to the snapshot that is on display. Snapshots
with well-formed elements can always be drawn, and are shown from then on: nodes
may move, and highlights may come to their end.
-/

namespace Statescope

open Element Surface

/-! ## One element -/

namespace Element

/-- What is left of an element without its place and without the mark of highlights. -/
def unmarked (e : Element) : Element :=
  { e with classes := e.classes.erase flashClass, position := none }

/-- All other classes are still there. -/
theorem hasClass_unmarked (e : Element) {c : String} (hc : c ≠ flashClass) :
    e.unmarked.hasClass c = e.hasClass c := by
  rw [Bool.eq_iff_iff, hasClass, hasClass, Std.ExtTreeSet.contains_iff_mem,
    Std.ExtTreeSet.contains_iff_mem, unmarked, Tags.mem_erase_iff]
  exact and_iff_right (Ne.symm hc)

theorem unmarked_marked (ids : List String) (e : Element) : (e.marked ids).unmarked = e.unmarked := by
  have : (e.classes.insert flashClass).erase flashClass = e.classes.erase flashClass := by
    apply Std.ExtTreeSet.ext_mem
    intro t
    rw [Tags.mem_erase_iff, Tags.mem_erase_iff, Tags.mem_insert_iff]
    exact and_congr_right fun hne => or_iff_right hne
  unfold marked
  split
  · rw [unmarked, this, unmarked]
  · rfl

theorem unmarked_cleared (ids : List String) (e : Element) : (e.cleared ids).unmarked = e.unmarked := by
  have : (e.classes.erase flashClass).erase flashClass = e.classes.erase flashClass := by
    apply Std.ExtTreeSet.ext_mem
    intro t
    rw [Tags.mem_erase_iff, and_iff_right_iff_imp]
    exact fun ht => (Tags.mem_erase_iff.1 ht).1
  unfold cleared
  split
  · rw [unmarked, this, unmarked]
  · rfl

theorem Moved.unmarked_eq {a b : Element} (h : Moved a b) : b.unmarked = a.unmarked := by
  obtain ⟨p, rfl, -⟩ := h
  rfl

theorem AllMoved.map_unmarked_eq {as bs : List Element} (h : AllMoved as bs) :
    bs.map unmarked = as.map unmarked :=
  map_eq_of_forall₂ h fun _ _ hab => hab.unmarked_eq

end Element

/-- `b` is what is shown for `a` while these ids are highlighted. Nodes may be anywhere.
An element that comes with the mark of highlights may lose it. -/
structure Element.ShownAs (flashed : List String) (a b : Element) : Prop where
  id_eq : b.id = a.id
  kind_eq : b.kind = a.kind
  label_eq : b.label = a.label
  source_eq : b.source = a.source
  target_eq : b.target = a.target
  classes_eq : flashClass ∉ a.classes →
    b.classes = if a.id ∈ flashed then a.classes.insert flashClass else a.classes
  position_eq : a.isNode = false → b.position = a.position

namespace Element.ShownAs

variable {flashed : List String} {a b c : Element}

theorem of_moved (h : Moved a b) : ShownAs [] a b := by
  obtain ⟨p, rfl, hp⟩ := h
  exact ⟨rfl, rfl, rfl, rfl, rfl, fun _ => by simp, hp⟩

theorem alike (h : ShownAs flashed a b) : Alike a b :=
  ⟨h.id_eq, by rw [isNode, h.kind_eq, isNode], h.source_eq, h.target_eq⟩

theorem moved (h : ShownAs flashed a b) (hbc : Moved b c) : ShownAs flashed a c := by
  have hnode := h.alike.isNode_eq
  obtain ⟨p, rfl, hp⟩ := hbc
  exact { h with position_eq := fun ha => (hp (hnode.trans ha)).trans (h.position_eq ha) }

/-- The mark is put on the elements that are named. -/
theorem marked (h : ShownAs [] a b) (ids : List String) : ShownAs ids a (b.marked ids) := by
  have hclasses (ha : flashClass ∉ a.classes) : b.classes = a.classes := by
    simpa using h.classes_eq ha
  unfold Element.marked
  by_cases hid : a.id ∈ ids
  · rw [if_pos (h.id_eq ▸ hid)]
    refine { h with classes_eq := fun ha => ?_ }
    simp only [hid, if_true, hclasses ha]
  · rw [if_neg (h.id_eq ▸ hid)]
    refine { h with classes_eq := fun ha => ?_ }
    simp only [hid, if_false, hclasses ha]

/-- The mark is taken off again. -/
theorem cleared {ids : List String} (h : ShownAs ids a b) : ShownAs [] a (b.cleared ids) := by
  have herase (ha : flashClass ∉ a.classes) :
      (a.classes.insert flashClass).erase flashClass = a.classes := by
    apply Std.ExtTreeSet.ext_mem
    intro t
    rw [Tags.mem_erase_iff, Tags.mem_insert_iff]
    constructor
    · rintro ⟨hne, rfl | ht⟩
      · exact absurd rfl hne
      · exact ht
    · exact fun ht => ⟨fun heq => ha (heq ▸ ht), .inr ht⟩
  unfold Element.cleared
  by_cases hid : a.id ∈ ids
  · rw [if_pos (h.id_eq ▸ hid)]
    refine { h with classes_eq := fun ha => ?_ }
    simp [h.classes_eq ha, hid, herase ha]
  · rw [if_neg (h.id_eq ▸ hid)]
    refine { h with classes_eq := fun ha => ?_ }
    simp [h.classes_eq ha, hid]

end Element.ShownAs

/-! ## Drawings -/

namespace Drawing

/-- `d'` is `d` with nodes elsewhere, and perhaps under another layout. -/
def Rearranged (d d' : Drawing) : Prop :=
  ∃ surface layout, d' = { d with surface, layout } ∧ AllMoved d.surface.elements surface.elements

theorem Rearranged.refl (d : Drawing) : Rearranged d d :=
  ⟨d.surface, d.layout, rfl, AllMoved.refl _⟩

/-- What is on display is this snapshot. -/
structure Shows (s : Snapshot) (d : Drawing) : Prop where
  elements : List.Forall₂ (ShownAs d.flashed) s.elements d.surface.elements
  unmarked_eq : d.surface.elements.map Element.unmarked = s.elements.map Element.unmarked
  flashed : d.flashed = [] ∨ ∃ t, s.lastTransition = some t ∧
    d.flashed = t.flashSet.filter (· ∈ s.elements.map (·.id))
  index : d.index = .ofSnapshot s

section Shows

variable {s : Snapshot} {d d' : Drawing}

theorem Shows.map_id_eq (h : Shows s d) :
    d.surface.elements.map (·.id) = s.elements.map (·.id) :=
  map_eq_of_forall₂ h.elements fun _ _ hab => hab.id_eq

/-- What is drawn is a well-formed list itself. -/
theorem Shows.wellFormed (h : Shows s d) (hwf : WellFormed s.elements) :
    WellFormed d.surface.elements :=
  hwf.of_alike (h.elements.imp fun _ _ => ShownAs.alike)

theorem Shows.rearranged (h : Shows s d) (hd : Rearranged d d') : Shows s d' := by
  obtain ⟨surface, layout, rfl, hmoved⟩ := hd
  refine ⟨?_, hmoved.map_unmarked_eq.trans h.unmarked_eq, h.flashed, h.index⟩
  refine forall₂_trans (R := ShownAs d.flashed) (S := Moved) ?_ h.elements hmoved
  intro a b c hab
  exact hab.moved

/-- A surface to which a snapshot has been brought shows it, with no highlights. -/
theorem shows_of_allMoved (hmoved : AllMoved s.elements d.surface.elements)
    (hflash : d.flash = none) (hindex : d.index = .ofSnapshot s) : Shows s d := by
  have hflashed : d.flashed = [] := by rw [flashed, hflash]
  refine ⟨?_, hmoved.map_unmarked_eq, .inl hflashed, hindex⟩
  rw [hflashed]
  exact hmoved.imp fun _ _ => ShownAs.of_moved

end Shows

/-! ## Rearranging -/

section Rearranging

variable [BlobStore σ]

theorem rearranged_selectLayout (d : Drawing) (kind : LayoutKind) :
    Rearranged d (d.selectLayout kind) :=
  ⟨_, _, rfl, allMoved_runLayout d.surface _⟩

theorem rearranged_restore (d : Drawing) (s : LayoutStore σ) : Rearranged d (d.restore s).2.1 := by
  unfold restore
  split
  · exact ⟨_, _, rfl, allMoved_applyPositions d.surface _⟩
  · exact Rearranged.refl d

theorem rearranged_moveNode (d : Drawing) (id : String) (p : Position) (s : LayoutStore σ) :
    Rearranged d (d.moveNode id p s).2.1 := by
  unfold moveNode
  split
  · exact Rearranged.refl d
  · exact ⟨_, _, rfl, allMoved_setPosition ‹_›⟩

end Rearranging

/-! ## First snapshots -/

theorem allMoved_placed (oracle : Option PositionOracle) {elements : List Element}
    (h : WellFormed elements) : AllMoved elements (placed oracle elements).1 := by
  unfold placed
  split
  · split
    · exact AllMoved.refl _
    · exact PositionOracle.allMoved_place _ h.nodup
  · exact AllMoved.refl _

section First

variable [BlobStore σ] {surface : Surface} {s : Snapshot} {oracle : Option PositionOracle}
  {options : DrawingOptions} {store : LayoutStore σ}

/-- The first snapshot of a diagram is drawn if its elements are well formed. -/
theorem exists_first (h : WellFormed s.elements) :
    ∃ restored d, (first surface s oracle options store).1 = .ok (restored, d) := by
  unfold first
  simp only [load_of_wellFormed ((allMoved_placed oracle h).wellFormed h)]
  exact ⟨_, _, rfl⟩

theorem shows_first (h : WellFormed s.elements) {restored : Bool} {d : Drawing}
    (hd : (first surface s oracle options store).1 = .ok (restored, d)) : Shows s d := by
  have hplaced := allMoved_placed oracle h
  unfold first at hd
  simp only [load_of_wellFormed (hplaced.wellFormed h)] at hd
  cases hd
  refine (shows_of_allMoved ?_ rfl rfl).rearranged (rearranged_restore _ store)
  refine AllMoved.trans ?_ (allMoved_runLayout _ _)
  exact hplaced.trans (forall₂_map_self fun e _ => moved_carryOver surface e)

/-- Whatever comes of the surface and its layout, the first snapshot and the options decide
the rest. -/
theorem exists_eq_of_first {restored : Bool} {d : Drawing}
    (hd : (first surface s oracle options store).1 = .ok (restored, d)) :
    ∃ surface layout, d =
      { surface, layout, options
        fingerprint := .ofElements s.elements
        index := .ofSnapshot s } := by
  unfold first at hd
  simp only at hd
  split at hd
  · cases hd
  · cases hd
    obtain ⟨_, _, hrestored, -⟩ := rearranged_restore _ store
    exact ⟨_, _, hrestored⟩

/-- A diagram goes by the fingerprint of its first snapshot. -/
theorem fingerprint_first {restored : Bool} {d : Drawing}
    (hd : (first surface s oracle options store).1 = .ok (restored, d)) :
    d.fingerprint = .ofElements s.elements := by
  obtain ⟨_, _, rfl⟩ := exists_eq_of_first hd
  rfl

theorem options_first {restored : Bool} {d : Drawing}
    (hd : (first surface s oracle options store).1 = .ok (restored, d)) : d.options = options := by
  obtain ⟨_, _, rfl⟩ := exists_eq_of_first hd
  rfl

end First

/-! ## Later snapshots -/

section Update

variable {s : Snapshot} {d : Drawing}

theorem contains_eq (h : Shows s d) (id : String) :
    d.surface.contains id = decide (id ∈ s.elements.map (·.id)) := by
  rw [← h.map_id_eq, contains_eq_decide_mem]

theorem shows_updated (d : Drawing) (s : Snapshot) (now : Int) : Shows s (d.updated s now) := by
  have hflashed := d.flashed_updated s now
  refine ⟨?_, ?_, ?_, rfl⟩
  · rw [hflashed]
    exact forall₂_map_self fun a _ => (ShownAs.of_moved (moved_carryOver d.surface a)).marked _
  · simp only [updated, List.map_map]
    apply List.map_congr_left
    intro a _
    exact (unmarked_marked _ _).trans (moved_carryOver d.surface a).unmarked_eq
  · rw [hflashed]
    cases ht : s.lastTransition with
    | none => exact .inl (by rw [Snapshot.flashIds, ht])
    | some t => exact .inr ⟨t, rfl, by rw [Snapshot.flashIds, ht]⟩

theorem shows_unflashed (h : Shows s d) : Shows s d.unflashed := by
  refine ⟨?_, ?_, .inl rfl, h.index⟩
  · exact List.forall₂_map_right_iff.2 (h.elements.imp fun _ _ hab => hab.cleared)
  · rw [← h.unmarked_eq, unflashed, List.map_map]
    exact List.map_congr_left fun a _ => unmarked_cleared d.flashed a

theorem shows_expireFlash (h : Shows s d) (hwf : WellFormed s.elements) (now : Int) :
    Shows s (d.expireFlash now).2 := by
  rw [expireFlash_eq (h.wellFormed hwf).nodup]
  split
  · exact shows_unflashed h
  · exact h

end Update

end Drawing

end Statescope
