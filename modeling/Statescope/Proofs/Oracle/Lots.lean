-- SUMMARY: What becomes of each element in a placement, by rules, and that the report of the placement counts it.
import Statescope.Proofs.Oracle.Places

/-!
# Lots

A placement allots a place to every node, or none. `HasLot` says by which rules: the oracle
first, then the place of the node itself, then the middle between two neighbours that are
placed without going halfway themselves. `place_allots` says that the elements go where they are
allotted to, and that the report of the placement counts the lots.
-/

namespace Statescope

open Element

/-- What becomes of an element in a placement. -/
inductive Lot where
  | edge
  /-- The oracle puts the node there. -/
  | direct (p : Position)
  /-- The node stays there. -/
  | kept (p : Position)
  /-- The action goes there, between two other nodes. -/
  | halfway (p : Position)
  | unplaced
deriving DecidableEq

namespace Lot

def isDirect : Lot → Bool
  | direct _ => true
  | _ => false

def isKept : Lot → Bool
  | kept _ => true
  | _ => false

def isHalfway : Lot → Bool
  | halfway _ => true
  | _ => false

def isUnplaced : Lot → Bool
  | unplaced => true
  | _ => false

def isNode : Lot → Bool
  | edge => false
  | _ => true

/-- The element where it has been allotted to. -/
def settle : Lot → Element → Element
  | edge, a => a
  | direct p, a | kept p, a | halfway p, a => { a with position := some p }
  | unplaced, a => { a with position := none }

/-- The lot of a node is of one kind. -/
theorem countP_add (lots : List Lot) :
    lots.countP isDirect + lots.countP isHalfway + lots.countP isUnplaced + lots.countP isKept
      = lots.countP isNode := by
  induction lots with
  | nil => rfl
  | cons lot lots ih =>
    simp only [List.countP_cons]
    cases lot <;> simp only [isDirect, isHalfway, isUnplaced, isKept, isNode, Bool.false_eq_true,
      if_true, if_false] <;> omega

end Lot

namespace PositionOracle

/-! ## Rules -/

/-- The action stands between nodes at `p` and `q`, once the oracle has placed what it knows:
there the first edge into it comes from, and there the first edge out of it leads to. -/
structure Between (o : PositionOracle) (elements : List Element) (a : Element) (p q : Position) :
    Prop where
  isAction : a.kind = .action
  incoming : ∃ edge source, elements.find? (fun edge => !edge.isNode && edge.target = some a.id)
    = some edge ∧ edge.source = some source ∧ o.knownAt? elements source = some p
  outgoing : ∃ edge target, elements.find? (fun edge => !edge.isNode && edge.source = some a.id)
    = some edge ∧ edge.target = some target ∧ o.knownAt? elements target = some q

inductive HasLot (o : PositionOracle) (elements : List Element) (a : Element) : Lot → Prop where
  | edge (hkind : a.kind = .connector) : HasLot o elements a .edge
  | state {p : Position} (hkind : a.kind = .state) (hp : o.nodes[a.id]? = some p) :
    HasLot o elements a (.direct p)
  | action {p : Position} (hkind : a.kind = .action) (hp : o.labels[a.label]? = some p) :
    HasLot o elements a (.direct p)
  | kept {p : Position} (hnode : a.isNode = true) (hunknown : o.find? a = none)
    (hp : a.position = some p) : HasLot o elements a (.kept p)
  | halfway {p q : Position} (hunknown : o.find? a = none) (hnowhere : a.position = none)
    (hbetween : o.Between elements a p q) : HasLot o elements a (.halfway (p.midpoint q))
  | unplaced (hnode : a.isNode = true) (hunknown : o.find? a = none) (hnowhere : a.position = none)
    (hapart : ∀ p q, ¬ o.Between elements a p q) : HasLot o elements a .unplaced

/-- The lot of an element, computed. -/
def lot (o : PositionOracle) (elements : List Element) (a : Element) : Lot :=
  if a.isNode then
    match o.find? a, a.position, o.halfway? elements a with
    | some p, _, _ => .direct p
    | none, some p, _ => .kept p
    | none, none, some p => .halfway p
    | none, none, none => .unplaced
  else .edge

variable {o : PositionOracle} {elements : List Element} {a : Element}

theorem halfway?_eq_some_iff {m : Position} :
    o.halfway? elements a = some m ↔ ∃ p q, o.Between elements a p q ∧ m = p.midpoint q := by
  unfold halfway?
  simp only [Option.bind_eq_bind, Option.pure_def, Option.bind_eq_some_iff, Option.some_inj]
  constructor
  · rintro ⟨_, hkind, incoming, hin, outgoing, hout, p, ⟨source, hsource, hp⟩, q,
      ⟨target, htarget, hq⟩, rfl⟩
    exact ⟨p, q, ⟨by simpa [guard] using hkind, ⟨incoming, source, hin, hsource, hp⟩,
      ⟨outgoing, target, hout, htarget, hq⟩⟩, rfl⟩
  · rintro ⟨p, q, ⟨hkind, ⟨incoming, source, hin, hsource, hp⟩, outgoing, target, hout, htarget, hq⟩,
      rfl⟩
    exact ⟨(), by simp [guard, hkind], incoming, hin, outgoing, hout, p, ⟨source, hsource, hp⟩, q,
      ⟨target, htarget, hq⟩, rfl⟩

theorem halfway?_eq_none_iff :
    o.halfway? elements a = none ↔ ∀ p q, ¬ o.Between elements a p q := by
  rw [Option.eq_none_iff_forall_ne_some]
  constructor
  · intro h p q hbetween
    exact h _ (halfway?_eq_some_iff.2 ⟨p, q, hbetween, rfl⟩)
  · intro h m hm
    obtain ⟨p, q, hbetween, -⟩ := halfway?_eq_some_iff.1 hm
    exact h p q hbetween

/-- The rules leave one lot to every element. -/
theorem hasLot_iff {l : Lot} : o.HasLot elements a l ↔ o.lot elements a = l := by
  constructor
  · intro h
    cases h with
    | edge hkind => simp [lot, isNode, hkind]
    | state hkind hp => simp [lot, isNode, find?, hkind, hp]
    | action hkind hp => simp [lot, isNode, find?, hkind, hp]
    | kept hnode hunknown hp => simp [lot, hnode, hunknown, hp]
    | halfway hunknown hnowhere hbetween =>
      have hm := halfway?_eq_some_iff.2 ⟨_, _, hbetween, rfl⟩
      simp [lot, isNode, hbetween.isAction, hunknown, hnowhere, hm]
    | unplaced hnode hunknown hnowhere hapart =>
      simp [lot, hnode, hunknown, hnowhere, halfway?_eq_none_iff.2 hapart]
  · rintro rfl
    unfold lot
    split
    · rename_i hnode
      cases hfind : o.find? a with
      | some p =>
        cases hkind : a.kind with
        | state => exact .state hkind (by simpa [find?, hkind] using hfind)
        | action => exact .action hkind (by simpa [find?, hkind] using hfind)
        | connector => simp [find?, hkind] at hfind
      | none =>
        cases hposition : a.position with
        | some p => exact .kept hnode hfind hposition
        | none =>
          cases hm : o.halfway? elements a with
          | some m =>
            obtain ⟨p, q, hbetween, rfl⟩ := halfway?_eq_some_iff.1 hm
            exact .halfway hfind hposition hbetween
          | none => exact .unplaced hnode hfind hposition (halfway?_eq_none_iff.1 hm)
    · rename_i hedge
      exact .edge (by simpa [isNode] using hedge)

theorem forall₂_hasLot_iff {lots : List Lot} :
    List.Forall₂ (o.HasLot elements) elements lots ↔ lots = elements.map (o.lot elements) := by
  have hrule : o.HasLot elements = fun a l => o.lot elements a = l := by
    funext a l
    exact propext hasLot_iff
  rw [hrule, ← List.forall₂_map_left_iff, List.forall₂_eq_eq_eq, eq_comm]

/-! ## The lot of an element -/

@[simp] theorem isDirect_lot (o : PositionOracle) (elements : List Element) (a : Element) :
    (o.lot elements a).isDirect = (o.find? a).isSome := by
  unfold lot
  split
  · cases o.find? a <;> cases a.position <;> cases o.halfway? elements a <;> rfl
  · rename_i hedge
    rw [find?_eq_none o (by simpa using hedge)]
    rfl

@[simp] theorem isHalfway_lot (o : PositionOracle) (elements : List Element) (a : Element) :
    (o.lot elements a).isHalfway = ((o.known? a).isNone && (o.halfway? elements a).isSome) := by
  unfold lot known?
  split
  · cases o.find? a <;> cases a.position <;> cases o.halfway? elements a <;> rfl
  · rename_i hedge
    rw [halfway?_eq_none o elements (by simpa using hedge), Option.isSome_none, Bool.and_false]
    rfl

@[simp] theorem isNode_lot (o : PositionOracle) (elements : List Element) (a : Element) :
    (o.lot elements a).isNode = a.isNode := by
  unfold lot
  split
  · rename_i hnode
    rw [hnode]
    cases o.find? a <;> cases a.position <;> cases o.halfway? elements a <;> rfl
  · rename_i hedge
    exact (Bool.not_eq_true _ ▸ hedge).symm

/-- A node goes to its lot. -/
theorem settle_lot (o : PositionOracle) (elements : List Element) (a : Element) :
    (o.lot elements a).settle a = a.goTo (o.placeOf? elements a) := by
  unfold lot goTo placeOf? known?
  split
  · cases o.find? a <;> cases a.position <;> cases o.halfway? elements a <;> simp [Lot.settle]
  · rfl

@[simp] theorem isUnplaced_lot (o : PositionOracle) (elements : List Element) (a : Element) :
    (o.lot elements a).isUnplaced = (a.isNode && (o.placeOf? elements a).isNone) := by
  unfold lot placeOf? known?
  split
  · rename_i hnode
    rw [hnode]
    cases o.find? a <;> cases a.position <;> cases o.halfway? elements a <;> rfl
  · rename_i hedge
    rw [Bool.not_eq_true] at hedge
    rw [hedge]
    rfl

/-! ## The placement -/

theorem elements_place_eq_zipWith (h : WellFormed elements) (o : PositionOracle) :
    (o.place elements).1 = List.zipWith Lot.settle (elements.map (o.lot elements)) elements := by
  rw [elements_place h, List.zipWith_map_left, List.zipWith_self]
  exact List.map_congr_left fun a _ => (settle_lot o elements a).symm

theorem direct_place (o : PositionOracle) (elements : List Element) :
    (o.place elements).2.direct = (elements.map (o.lot elements)).countP Lot.isDirect := by
  rw [List.countP_map, List.countP_eq_length_filter]
  simp only [place, Function.comp_def, isDirect_lot]

theorem interpolated_place (h : WellFormed elements) (o : PositionOracle) :
    (o.place elements).2.interpolated = (elements.map (o.lot elements)).countP Lot.isHalfway := by
  rw [List.countP_map, place]
  simp only [← List.countP_eq_length_filter, List.countP_map]
  refine List.countP_congr fun a ha => ?_
  rw [Function.comp_apply, Function.comp_apply, isHalfway_lot, id_placeKnown,
    ← Std.ExtTreeMap.isSome_getElem?_eq_contains, getElem?_midpoints_placeKnown h ha]
  cases (o.known? a).isNone <;> simp

theorem unplaced_place (h : WellFormed elements) (o : PositionOracle) :
    (o.place elements).2.unplaced
      = (elements.filter fun a => (o.lot elements a).isUnplaced).map (·.id) := by
  simp only [place, List.filter_filter, List.filter_map, List.map_map]
  have hid : (fun e : Element => e.id) ∘ o.placeKnown = fun e => e.id :=
    funext fun a => o.id_placeKnown a
  rw [hid]
  congr 1
  refine List.filter_congr fun a _ => ?_
  have hneeds : needsPosition (o.placeKnown a) = (a.isNode && (o.known? a).isNone) := by
    rw [placeKnown_eq]
    rfl
  rw [Function.comp_apply, Function.comp_apply, midpoint?_placeKnown h, hneeds, isUnplaced_lot,
    placeOf?, Option.isNone_or, Bool.and_comm, Bool.and_assoc]

/-- The nodes without a place of their own are nowhere. -/
theorem filter_elements_place (h : WellFormed elements) (o : PositionOracle) :
    ((o.place elements).1.filter fun b => b.isNode && b.position.isNone).map (·.id)
      = (elements.filter fun a => (o.lot elements a).isUnplaced).map (·.id) := by
  rw [elements_place h, List.filter_map, List.map_map]
  simp only [Function.comp_def, id_goTo]
  congr 1
  refine List.filter_congr fun a _ => ?_
  rw [isNode_goTo, isUnplaced_lot]
  cases hnode : a.isNode with
  | false => rw [Bool.false_and, Bool.false_and]
  | true => rw [goTo, if_pos hnode, placeOf?_or_position]

/-! ## The report -/

/-- A placement of well-formed elements leaves no choice. There is one list of lots by the rules,
every element goes where it has been allotted to and is otherwise as it was, and the report
counts the lots: how many nodes the oracle has placed, how many have gone halfway, and which
ones are nowhere. The others have kept their places, and no node is counted twice. Some node has
been placed if one of them has been placed by the oracle or has gone halfway. -/
theorem place_allots (h : Snapshot.elementsError? elements = none) (o : PositionOracle) :
    ∃ lots, (∀ lots', List.Forall₂ (o.HasLot elements) elements lots' ↔ lots' = lots) ∧
      let placed := (o.place elements).1
      let report := (o.place elements).2
      placed = List.zipWith Lot.settle lots elements ∧
      report.direct = lots.countP Lot.isDirect ∧
      report.interpolated = lots.countP Lot.isHalfway ∧
      report.unplaced = (placed.filter fun b => b.isNode && b.position.isNone).map (·.id) ∧
      report.unplaced.length = lots.countP Lot.isUnplaced ∧
      report.direct + report.interpolated + report.unplaced.length + lots.countP Lot.isKept
        = (elements.filter (·.isNode)).length ∧
      (report.anyPlaced = true ↔ ∃ l ∈ lots, l.isDirect = true ∨ l.isHalfway = true) := by
  have hwf := Snapshot.elementsError?_eq_none_iff_wellFormed.1 h
  have hdirect := direct_place o elements
  have hinterpolated := interpolated_place hwf o
  have hunplaced := unplaced_place hwf o
  have hlength : (o.place elements).2.unplaced.length
      = (elements.map (o.lot elements)).countP Lot.isUnplaced := by
    rw [hunplaced, List.length_map, List.countP_map, List.countP_eq_length_filter]
    rfl
  have hnodes : (elements.map (o.lot elements)).countP Lot.isNode
      = (elements.filter (·.isNode)).length := by
    rw [List.countP_map, List.countP_eq_length_filter]
    simp only [Function.comp_def, isNode_lot]
  refine ⟨elements.map (o.lot elements), fun _ => forall₂_hasLot_iff, elements_place_eq_zipWith hwf o,
    hdirect, hinterpolated, hunplaced.trans (filter_elements_place hwf o).symm, hlength, ?_, ?_⟩
  · rw [hdirect, hinterpolated, hlength, Lot.countP_add, hnodes]
  · rw [Placement.anyPlaced, decide_eq_true_iff, hdirect, hinterpolated, Nat.add_pos_iff_pos_or_pos,
      List.countP_pos_iff, List.countP_pos_iff, ← exists_or]
    simp only [← and_or_left]

/-- Each of the rules at work. -/
theorem place_allots_of_each_rule :
    let elements : List Element := [{ id := "a", kind := .state },
      { id := "b", kind := .state, position := some ⟨100, 50⟩ }, { id := "x", kind := .action },
      { id := "y", kind := .action, label := "go" }, { id := "c", kind := .state },
      { id := "e", kind := .connector, source := some "a", target := some "x" },
      { id := "f", kind := .connector, source := some "x", target := some "b" }]
    let o : PositionOracle := ⟨Dict.ofPairs [("a", ⟨0, 0⟩)], Dict.ofPairs [("go", ⟨7, 8⟩)]⟩
    Snapshot.elementsError? elements = none ∧
      (o.place elements).1.map (fun a => (a.id, a.position)) = [("a", some ⟨0, 0⟩),
        ("b", some ⟨100, 50⟩), ("x", some ⟨50, 25⟩), ("y", some ⟨7, 8⟩), ("c", none), ("e", none),
        ("f", none)] ∧
      (o.place elements).2.direct = 2 ∧ (o.place elements).2.interpolated = 1 ∧
      (o.place elements).2.unplaced = ["c"] ∧ (o.place elements).2.anyPlaced = true := by
  intro elements o
  have haccepted : Snapshot.elementsError? elements = none := by decide +kernel
  obtain ⟨lots, hrules, hplaced, hdirect, hinterpolated, hunplaced, -, -, hany⟩ :=
    place_allots haccepted o
  have hmiddle : o.Between elements { id := "x", kind := .action } ⟨0, 0⟩ ⟨100, 50⟩ :=
    ⟨rfl, ⟨elements[5], "a", by decide +kernel, rfl, by decide +kernel⟩,
      ⟨elements[6], "b", by decide +kernel, rfl, by decide +kernel⟩⟩
  have hlots : [.direct ⟨0, 0⟩, .kept ⟨100, 50⟩, .halfway (Position.midpoint ⟨0, 0⟩ ⟨100, 50⟩),
      .direct ⟨7, 8⟩, .unplaced, .edge, .edge] = lots := by
    refine (hrules _).1 (.cons (.state rfl (by decide +kernel)) (.cons
      (.kept rfl (by decide +kernel) rfl) (.cons (.halfway (by decide +kernel) rfl hmiddle) (.cons
      (.action rfl (by decide +kernel)) (.cons (.unplaced rfl (by decide +kernel) rfl ?_) (.cons
      (.edge rfl) (.cons (.edge rfl) .nil)))))))
    intro p q hbetween
    cases hbetween.isAction
  subst hlots
  refine ⟨haccepted, ?_, hdirect, hinterpolated, ?_, hany.2 ⟨_, List.mem_cons_self, .inl rfl⟩⟩
  · rw [hplaced]
    decide +kernel
  · rw [hunplaced, hplaced]
    rfl

end PositionOracle

end Statescope
