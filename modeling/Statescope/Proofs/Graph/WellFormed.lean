-- SUMMARY: The element lists that snapshots may hold: distinct ids, and edges that join nodes of the list.
import Mathlib.Data.List.Nodup
import Statescope.Graph.Snapshot
import Statescope.Proofs.Pointwise

/-!
# Well-formed element lists

`Element.WellFormed` says what the check of a snapshot stands for, without the
sets that the check goes through. A list passes the check exactly if it is well
formed.
-/

namespace Statescope

/-! ## Nodes and edges of a list -/

namespace Element

/-- The id belongs to a node of the list. -/
def IsNodeOf (elements : List Element) (id : String) : Prop :=
  ∃ e ∈ elements, e.isNode = true ∧ e.id = id

/-- The edge has a source and a target, and both are nodes of the list. -/
def Joins (elements : List Element) (edge : Element) : Prop :=
  ∃ source target, edge.source = some source ∧ edge.target = some target ∧
    IsNodeOf elements source ∧ IsNodeOf elements target

structure WellFormed (elements : List Element) : Prop where
  nodup : (elements.map (·.id)).Nodup
  joined : ∀ edge ∈ elements, edge.isNode = false → Joins elements edge

@[simp] theorem mem_nodeIds {elements : List Element} {id : String} :
    id ∈ nodeIds elements ↔ IsNodeOf elements id := by
  simp [nodeIds, IsNodeOf, and_assoc]

theorem contains_nodeIds {elements : List Element} {id : String} :
    (nodeIds elements).contains id = true ↔ IsNodeOf elements id := by
  rw [Std.ExtTreeSet.contains_iff_mem, mem_nodeIds]

/-- Elements with one id are the same element. -/
theorem WellFormed.eq_of_id_eq {elements : List Element} (h : WellFormed elements) {a b : Element}
    (ha : a ∈ elements) (hb : b ∈ elements) (hid : a.id = b.id) : a = b :=
  List.inj_on_of_nodup_map h.nodup ha hb hid

/-! ## Lists alike -/

/-- The two elements are the same node or the same edge, whatever they look like. -/
structure Alike (a b : Element) : Prop where
  id_eq : b.id = a.id
  isNode_eq : b.isNode = a.isNode
  source_eq : b.source = a.source
  target_eq : b.target = a.target

theorem IsNodeOf.of_alike {as bs : List Element} {id : String} (h : List.Forall₂ Alike as bs)
    (hid : IsNodeOf as id) : IsNodeOf bs id := by
  obtain ⟨a, ha, hnode, rfl⟩ := hid
  obtain ⟨b, hb, hab⟩ := exists_right_of_mem h ha
  exact ⟨b, hb, hab.isNode_eq.trans hnode, hab.id_eq⟩

theorem WellFormed.of_alike {as bs : List Element} (h : List.Forall₂ Alike as bs)
    (hwf : WellFormed as) : WellFormed bs := by
  refine ⟨map_eq_of_forall₂ h (fun _ _ hab => hab.id_eq) ▸ hwf.nodup, fun b hb hedge => ?_⟩
  obtain ⟨a, ha, hab⟩ := exists_left_of_mem h hb
  obtain ⟨source, target, hsource, htarget, hs, ht⟩ :=
    hwf.joined a ha (hab.isNode_eq ▸ hedge)
  exact ⟨source, target, hab.source_eq.trans hsource, hab.target_eq.trans htarget,
    hs.of_alike h, ht.of_alike h⟩

/-! ## Lists in another order -/

theorem IsNodeOf.of_perm {as bs : List Element} {id : String} (h : as.Perm bs)
    (hid : IsNodeOf as id) : IsNodeOf bs id := by
  obtain ⟨a, ha, hnode, hida⟩ := hid
  exact ⟨a, h.mem_iff.1 ha, hnode, hida⟩

/-- Nothing about a list is wrong in one order only. -/
theorem WellFormed.of_perm {as bs : List Element} (h : as.Perm bs) (hwf : WellFormed as) :
    WellFormed bs := by
  refine ⟨(h.map _).nodup_iff.1 hwf.nodup, fun b hb hedge => ?_⟩
  obtain ⟨source, target, hsource, htarget, hs, ht⟩ := hwf.joined b (h.mem_iff.2 hb) hedge
  exact ⟨source, target, hsource, htarget, hs.of_perm h, ht.of_perm h⟩

end Element

/-! ## The check -/

namespace Snapshot

open Element

theorem firstRepeated?_eq_none_iff {seen : Tags} {ids : List String} :
    firstRepeated? seen ids = none ↔ ids.Nodup ∧ ∀ id ∈ ids, id ∉ seen := by
  induction ids generalizing seen with
  | nil => simp [firstRepeated?]
  | cons id ids ih =>
    by_cases hid : id ∈ seen
    · simp [firstRepeated?, hid]
    · have hcontains : seen.contains id = false := by
        rwa [Bool.eq_false_iff, ne_eq, Std.ExtTreeSet.contains_iff_mem]
      simp only [firstRepeated?, hcontains, Bool.false_eq_true, if_false, ih, Tags.mem_insert_iff,
        List.nodup_cons, List.mem_cons, forall_eq_or_imp]
      constructor
      · rintro ⟨hnodup, hnew⟩
        refine ⟨⟨fun hmem => hnew id hmem (.inl rfl), hnodup⟩, hid, ?_⟩
        intro id' hmem hseen
        exact hnew id' hmem (.inr hseen)
      · rintro ⟨⟨hhead, hnodup⟩, -, hnew⟩
        refine ⟨hnodup, fun id' hmem => ?_⟩
        rintro (rfl | hseen)
        · exact hhead hmem
        · exact hnew id' hmem hseen

theorem edgeError?_eq_none_iff {elements : List Element} {edge : Element} :
    edgeError? (nodeIds elements) edge = none ↔ Joins elements edge := by
  unfold edgeError? Joins
  cases edge.source with
  | none => simp
  | some source =>
    cases edge.target with
    | none => simp
    | some target =>
      simp only [Option.some.injEq, exists_and_left, exists_eq_left', ← contains_nodeIds]
      cases (nodeIds elements).contains source <;> cases (nodeIds elements).contains target <;> simp

/-- A list of elements passes the check of snapshots exactly if it is well formed. -/
theorem elementsError?_eq_none_iff_wellFormed {elements : List Element} :
    elementsError? elements = none ↔ WellFormed elements := by
  unfold elementsError?
  cases hrepeated : firstRepeated? ∅ (elements.map (·.id)) with
  | some id =>
    have hdup : ¬ (elements.map (·.id)).Nodup := fun hnodup => by
      rw [firstRepeated?_eq_none_iff.2 ⟨hnodup, fun _ _ => Std.ExtTreeSet.not_mem_empty⟩] at hrepeated
      cases hrepeated
    simpa using fun h : WellFormed elements => hdup h.nodup
  | none =>
    have hnodup := (firstRepeated?_eq_none_iff.1 hrepeated).1
    simp only [List.findSome?_eq_none_iff, List.mem_filter, Bool.not_eq_true', and_imp,
      edgeError?_eq_none_iff]
    exact ⟨fun h => ⟨hnodup, h⟩, fun h => h.joined⟩

/-- What is read has well-formed elements. -/
theorem wellFormed_of_read {text : String} {s : Snapshot} (h : read text = .ok s) :
    WellFormed s.elements := by
  unfold read at h
  split at h
  · cases h
  · split at h
    · cases h
    · cases h
      exact elementsError?_eq_none_iff_wellFormed.1 ‹_›

/-- A text is read if it can be said what is read. -/
theorem exists_read_of_any {text : String} {p : Snapshot → Prop} [DecidablePred p]
    (h : ((read text).toOption.any fun s => p s) = true) : ∃ s, read text = .ok s ∧ p s := by
  cases hread : read text with
  | error cause => simp [hread, Except.toOption] at h
  | ok s =>
    rw [hread, Except.toOption, Option.any_some, decide_eq_true_iff] at h
    exact ⟨s, rfl, h⟩

end Snapshot

end Statescope
