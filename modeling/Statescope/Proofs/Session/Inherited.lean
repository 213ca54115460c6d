-- SUMMARY: Which positions nodes take over from one snapshot to the next, and where a row of snapshots leaves them.
import Statescope.Proofs.Canvas.Positions
import Statescope.Proofs.Session.Flash

/-!
# Inherited positions

A later snapshot replaces all elements, and a node that comes without a position takes over
the one that its id had before. Over a row of snapshots a node that is in all of them ends
where it was put last, or stays where it was; one that was gone in between has lost its place.
-/

namespace Statescope

open Element Surface

/-! ## Snapshots -/

namespace Snapshot

/-- The position that a snapshot gives to an id. -/
def position? (s : Snapshot) (id : String) : Option Position :=
  s.elements.find? (·.id = id) >>= (·.position)

/-- Where a snapshot leaves an id that has been there before. -/
def inherit (s : Snapshot) (before : String → Option Position) (id : String) : Option Position :=
  s.elements.find? (·.id = id) >>= fun a =>
    if a.isNode then a.position.or (before id) else a.position

/-- The last position that a row of snapshots gives to an id. -/
def lastGiven? (ss : List Snapshot) (id : String) : Option Position :=
  (ss.filterMap (·.position? id)).getLast?

/-- Where a row of snapshots leaves the ids. -/
def inheritAll (ss : List Snapshot) (before : String → Option Position) : String → Option Position :=
  ss.foldl (fun places s => s.inherit places) before

variable {s : Snapshot} {ss : List Snapshot} {id : String}

theorem inherit_of_isNodeOf (hwf : WellFormed s.elements) (h : IsNodeOf s.elements id)
    (before : String → Option Position) : s.inherit before id = (s.position? id).or (before id) := by
  obtain ⟨a, ha, hnode, rfl⟩ := h
  have hfound : s.elements.find? (·.id = a.id) = some a := find?_eq_some_of_mem hwf.nodup ha
  rw [inherit, position?, hfound, Option.bind_eq_bind, Option.bind_some, if_pos hnode]
  rfl

theorem inherit_of_absent (h : id ∉ s.elements.map (·.id)) (before : String → Option Position) :
    s.inherit before id = none := by
  rw [inherit, find?_eq_none_of_not_mem h]
  rfl

theorem lastGiven?_cons (s : Snapshot) (ss : List Snapshot) (id : String) :
    lastGiven? (s :: ss) id = (lastGiven? ss id).or (s.position? id) := by
  rw [lastGiven?, lastGiven?, ← List.singleton_append, List.filterMap_append, List.getLast?_append]
  cases hp : s.position? id <;> simp [hp]

/-- A node of all snapshots ends where it has been put last, or stays where it was. -/
theorem inheritAll_of_isNodeOf (hwf : ∀ s ∈ ss, WellFormed s.elements)
    (h : ∀ s ∈ ss, IsNodeOf s.elements id) (before : String → Option Position) :
    inheritAll ss before id = (lastGiven? ss id).or (before id) := by
  induction ss generalizing before with
  | nil => rfl
  | cons s ss ih =>
    rw [List.forall_mem_cons] at hwf h
    rw [inheritAll, List.foldl_cons, ← inheritAll, ih hwf.2 h.2, inherit_of_isNodeOf hwf.1 h.1,
      lastGiven?_cons, Option.or_assoc]

/-- An id that is not there at the end of a row of snapshots has lost its place. -/
theorem inheritAll_of_absent {shown : List Element}
    (h : id ∉ ((ss.getLast?.map (·.elements)).getD shown).map (·.id))
    {before : String → Option Position} (hbefore : id ∉ shown.map (·.id) → before id = none) :
    inheritAll ss before id = none := by
  rcases List.eq_nil_or_concat ss with rfl | ⟨ss, s, rfl⟩
  · exact hbefore h
  · rw [List.concat_eq_append, List.getLast?_concat, Option.map_some, Option.getD_some] at h
    rw [List.concat_eq_append, inheritAll, List.foldl_append]
    exact inherit_of_absent h _

theorem inheritAll_append (ss ss' : List Snapshot) (before : String → Option Position) :
    inheritAll (ss ++ ss') before = inheritAll ss' (inheritAll ss before) :=
  List.foldl_append

end Snapshot

/-! ## Surfaces -/

namespace Surface

theorem position_carryOver (s : Surface) (a : Element) : (s.carryOver a).position
    = if a.isNode then a.position.or (s.position? a.id) else a.position := by
  unfold carryOver
  cases a.isNode <;> cases hposition : a.position <;> simp [hposition]

end Surface

/-! ## Drawings -/

namespace Drawing

theorem position?_updated (d : Drawing) (s : Snapshot) (now : Int) :
    (d.updated s now).surface.position? = s.inherit d.surface.position? := by
  funext id
  have hid (a : Element) : ((d.surface.carryOver a).marked s.flashIds).id = a.id := by
    rw [id_marked]
    exact (moved_carryOver d.surface a).alike.id_eq
  refine (position?_of_map rfl hid id).trans ?_
  rw [Snapshot.inherit]
  cases hfound : s.elements.find? (·.id = id) with
  | none => rfl
  | some a =>
    have ha : a.id = id := by simpa using List.find?_some hfound
    rw [Option.bind_eq_bind, Option.bind_some, Option.bind_some, position_marked, position_carryOver,
      ha]

theorem position?_unflashed (d : Drawing) : d.unflashed.surface.position? = d.surface.position? := by
  funext id
  refine (position?_of_map rfl (id_cleared d.flashed) id).trans ?_
  simp only [position_cleared]
  rfl

end Drawing

end Statescope
