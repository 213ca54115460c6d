-- SUMMARY: What the check of a snapshot says is wrong with a list of elements, and when.
import Statescope.Proofs.Graph.WellFormed

/-!
# What is wrong with a list of elements

A list may have many things wrong with it, and the check names one. `Fault` says
which, in terms of the list alone: the id whose second occurrence comes first,
and if there is none, the first edge that does not join nodes, by the first of
its ends that is to blame.
-/

namespace Statescope.Snapshot

open Element

variable {elements : List Element} {edge : Element} {e : SnapshotError}

/-! ## Repeated ids -/

/-- The id that is found has occurred before, and nothing is found before it. -/
theorem firstRepeated?_eq_some_iff_of_split {seen : Tags} {ids : List String} {id : String} :
    firstRepeated? seen ids = some id ↔ ∃ before after, ids = before ++ id :: after ∧
      firstRepeated? seen before = none ∧ (id ∈ before ∨ id ∈ seen) := by
  induction ids generalizing seen with
  | nil => simp [firstRepeated?]
  | cons t ts ih =>
    by_cases ht : t ∈ seen
    · constructor
      · intro h
        obtain rfl : t = id := by simpa [firstRepeated?, ht] using h
        exact ⟨[], ts, rfl, rfl, .inr ht⟩
      · rintro ⟨before, after, hids, hbefore, -⟩
        cases before with
        | nil =>
          obtain ⟨rfl, -⟩ := List.cons.inj hids
          simp [firstRepeated?, ht]
        | cons x before =>
          obtain ⟨rfl, -⟩ := List.cons.inj hids
          simp [firstRepeated?, ht] at hbefore
    · have hskip (ts : List String) :
          firstRepeated? seen (t :: ts) = firstRepeated? (seen.insert t) ts := by
        simp [firstRepeated?, ht]
      rw [hskip, ih]
      constructor
      · rintro ⟨before, after, rfl, hbefore, hid⟩
        refine ⟨t :: before, after, rfl, (hskip before).trans hbefore, ?_⟩
        rw [Tags.mem_insert_iff] at hid
        rw [List.mem_cons]
        tauto
      · rintro ⟨before, after, hids, hbefore, hid⟩
        cases before with
        | nil =>
          obtain ⟨rfl, -⟩ := List.cons.inj hids
          exact absurd hid (by simp [ht])
        | cons x before =>
          obtain ⟨rfl, rfl⟩ := List.cons.inj hids
          refine ⟨before, after, rfl, (hskip before).symm.trans hbefore, ?_⟩
          rw [List.mem_cons] at hid
          rw [Tags.mem_insert_iff]
          tauto

/-- The id that is found is the one whose second occurrence comes first. -/
theorem firstRepeated?_eq_some_iff {ids : List String} {id : String} :
    firstRepeated? ∅ ids = some id ↔
      ∃ before after, ids = before ++ id :: after ∧ before.Nodup ∧ id ∈ before := by
  simp [firstRepeated?_eq_some_iff_of_split, firstRepeated?_eq_none_iff,
    Std.ExtTreeSet.not_mem_empty]

/-! ## Edges that do not join nodes -/

/-- What is wrong with an edge, given the list that it stands in. Of two ends
that are no nodes, the source is to blame. -/
inductive EdgeFault (elements : List Element) (edge : Element) : SnapshotError → Prop
  | missing : edge.source = none ∨ edge.target = none →
      EdgeFault elements edge (.missingEndpoint edge.id)
  | source {source target : String} : edge.source = some source → edge.target = some target →
      ¬ IsNodeOf elements source → EdgeFault elements edge (.danglingEdge edge.id source)
  | target {source target : String} : edge.source = some source → edge.target = some target →
      IsNodeOf elements source → ¬ IsNodeOf elements target →
      EdgeFault elements edge (.danglingEdge edge.id target)

theorem contains_nodeIds_eq_false {id : String} :
    (nodeIds elements).contains id = false ↔ ¬ IsNodeOf elements id := by
  rw [← contains_nodeIds, Bool.not_eq_true]

theorem edgeError?_eq_some_iff :
    edgeError? (nodeIds elements) edge = some e ↔ EdgeFault elements edge e := by
  unfold edgeError?
  constructor
  · intro h
    split at h
    case h_1 source target hsource htarget =>
      by_cases hs : IsNodeOf elements source
      · by_cases ht : IsNodeOf elements target
        · simp [contains_nodeIds.2 hs, contains_nodeIds.2 ht] at h
        · simp only [contains_nodeIds.2 hs, contains_nodeIds_eq_false.2 ht] at h
          cases h
          exact .target hsource htarget hs ht
      · simp only [contains_nodeIds_eq_false.2 hs] at h
        cases h
        exact .source hsource htarget hs
    case h_2 hends =>
      cases h
      refine .missing ?_
      cases hsource : edge.source with
      | none => exact .inl rfl
      | some source => exact .inr (Option.eq_none_iff_forall_ne_some.2 (hends source · hsource))
  · rintro (h | ⟨hsource, htarget, hs⟩ | ⟨hsource, htarget, hs, ht⟩)
    · rcases h with h | h <;> simp [h]
    · simp [hsource, htarget, contains_nodeIds_eq_false.2 hs]
    · simp [hsource, htarget, contains_nodeIds.2 hs, contains_nodeIds_eq_false.2 ht]

/-! ## The whole check -/

/-- What the check says of a list. -/
inductive Fault (elements : List Element) : SnapshotError → Prop
  | repeated {before after : List String} {id : String} :
      elements.map (·.id) = before ++ id :: after → before.Nodup → id ∈ before →
      Fault elements (.duplicateId id)
  | edge {before after : List Element} {edge : Element} {e : SnapshotError} :
      (elements.map (·.id)).Nodup → elements = before ++ edge :: after →
      (∀ x ∈ before, x.isNode = false → Joins elements x) →
      edge.isNode = false → EdgeFault elements edge e → Fault elements e

theorem findSome?_edges_eq_some_iff :
    (elements.filter (!·.isNode)).findSome? (edgeError? (nodeIds elements)) = some e ↔
      ∃ before edge after, elements = before ++ edge :: after ∧
        (edge.isNode = false ∧ EdgeFault elements edge e) ∧
        ∀ x ∈ before, x.isNode = false → Joins elements x := by
  rw [← List.head?_filterMap, List.filterMap_filter, List.head?_filterMap,
    List.findSome?_eq_some_iff]
  simp only [Bool.not_eq_true', Option.ite_none_right_eq_some, ite_eq_right_iff,
    edgeError?_eq_some_iff, edgeError?_eq_none_iff]

theorem elementsError?_eq_some_iff : elementsError? elements = some e ↔ Fault elements e := by
  unfold elementsError?
  cases hrepeated : firstRepeated? ∅ (elements.map (·.id)) with
  | some id =>
    obtain ⟨before, after, hids, hnodup, hid⟩ := firstRepeated?_eq_some_iff.1 hrepeated
    simp only [Option.some.injEq]
    constructor
    · rintro rfl
      exact .repeated hids hnodup hid
    · rintro (⟨hids', hnodup', hid'⟩ | ⟨hall, -⟩)
      · cases hrepeated.symm.trans (firstRepeated?_eq_some_iff.2 ⟨_, _, hids', hnodup', hid'⟩)
        rfl
      · rw [hids, List.nodup_middle, List.nodup_cons, List.mem_append] at hall
        exact absurd (.inl hid) hall.1
  | none =>
    have hall := (firstRepeated?_eq_none_iff.1 hrepeated).1
    simp only [findSome?_edges_eq_some_iff]
    constructor
    · rintro ⟨before, edge, after, hsplit, ⟨hedge, hfault⟩, hbefore⟩
      exact .edge hall hsplit hbefore hedge hfault
    · rintro (⟨hids, hnodup, hid⟩ | ⟨-, hsplit, hbefore, hedge, hfault⟩)
      · cases hrepeated.symm.trans (firstRepeated?_eq_some_iff.2 ⟨_, _, hids, hnodup, hid⟩)
      · exact ⟨_, _, _, hsplit, ⟨hedge, hfault⟩, hbefore⟩

/-- The check accepts a list exactly if it is well formed, and otherwise names what `Fault` says. No
order of the elements is better than another, so edges may come before the nodes that they join. -/
theorem check_names_fault (elements : List Element) :
    (elementsError? elements = none ↔ WellFormed elements) ∧
    (∀ e, elementsError? elements = some e ↔ Fault elements e) ∧
    (elementsError? elements = none →
      elementsError? (elements.filter (!·.isNode) ++ elements.filter (·.isNode)) = none ∧
      ∀ rearranged, elements.Perm rearranged → elementsError? rearranged = none) := by
  have hperm {rearranged : List Element} (haccepted : elementsError? elements = none)
      (h : elements.Perm rearranged) : elementsError? rearranged = none := by
    rw [elementsError?_eq_none_iff_wellFormed] at haccepted ⊢
    exact haccepted.of_perm h
  refine ⟨elementsError?_eq_none_iff_wellFormed, fun _ => elementsError?_eq_some_iff,
    fun haccepted => ⟨hperm haccepted ?_, fun _ => hperm haccepted⟩⟩
  exact ((List.filter_append_perm (·.isNode) elements).symm.trans List.perm_append_comm)

/-- An edge may join a node that comes later, but not another edge. Of several things that are wrong
repeated ids are named first, and among them the one whose second occurrence comes first. -/
theorem check_names_fault_of_several_faults :
    let a : Element := { id := "a", kind := .state }
    let b : Element := { id := "b", kind := .action }
    let edge (id : String) (source target : Option String) : Element :=
      { id, kind := .connector, source, target }
    let joined := edge "e" (some "a") (some "b")
    let dangling := edge "f" (some "b") (some "e")
    let loose := edge "g" (some "c") none
    Fault [joined, dangling, loose, a, b] (.danglingEdge "f" "e") ∧
      Fault [joined, loose, dangling, a, b] (.missingEndpoint "g") ∧
      Fault [loose, a, b, edge "b" none none, a] (.duplicateId "b") ∧
      WellFormed [a, joined, b] ∧ elementsError? [joined, a, b] = none ∧
      elementsError? [b, joined, a] = none := by
  intro a b edge joined dangling loose
  have haccepted : elementsError? [a, joined, b] = none := by decide +kernel
  obtain ⟨hwell, -, hmoved⟩ := check_names_fault [a, joined, b]
  obtain ⟨hedgesFirst, hperm⟩ := hmoved haccepted
  exact ⟨((check_names_fault _).2.1 _).1 (by decide +kernel),
    ((check_names_fault _).2.1 _).1 (by decide +kernel),
    ((check_names_fault _).2.1 _).1 (by decide +kernel),
    hwell.1 haccepted, hedgesFirst, hperm _ (List.reverse_perm [a, joined, b]).symm⟩

end Statescope.Snapshot
