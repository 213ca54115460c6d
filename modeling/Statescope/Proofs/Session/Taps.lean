-- SUMMARY: Which elements are offered for taps, which taps take a transition, and when these are the same.
import Statescope.Proofs.Graph.ActionIndex
import Statescope.Proofs.Session.Drawing

/-!
# Taps

An element is offered for taps by its classes: it is marked as an action and as enabled.
A tap goes by the kind of the element and by the index of actions instead. The two agree
on an id exactly if the element that is marked as enabled is marked as an action just when
it is an action whose transition the panel lists (`mem_tappable_iff_resolves_iff`).
-/

namespace Statescope.Drawing

open Element

/-! ## Drawings of accepted snapshots -/

/-- A drawing that some snapshots have led to, the last of which is `s`. All of them have
been accepted, and between them nodes were moved and highlights ended. -/
inductive Reached : Snapshot → Drawing → Prop where
  | first {σ : Type} [BlobStore σ] {text : String} {s : Snapshot}
    (hread : Snapshot.read text = .ok s) (surface : Surface) (oracle : Option PositionOracle)
    (options : DrawingOptions) (store : LayoutStore σ) {restored : Bool} {d : Drawing}
    (hd : (Drawing.first surface s oracle options store).1 = .ok (restored, d)) : Reached s d
  | update {s s' : Snapshot} {d d' : Drawing} {text : String} (h : Reached s d)
    (hread : Snapshot.read text = .ok s') (now : Int) (hd : d.update s' now = .ok d') :
    Reached s' d'
  | expireFlash {s : Snapshot} {d : Drawing} (h : Reached s d) (now : Int) :
    Reached s (d.expireFlash now).2
  | moveNode {σ : Type} [BlobStore σ] {s : Snapshot} {d : Drawing} (h : Reached s d)
    (id : String) (p : Position) (store : LayoutStore σ) : Reached s (d.moveNode id p store).2.1
  | restore {σ : Type} [BlobStore σ] {s : Snapshot} {d : Drawing} (h : Reached s d)
    (store : LayoutStore σ) : Reached s (d.restore store).2.1
  | selectLayout {s : Snapshot} {d : Drawing} (h : Reached s d) (kind : LayoutKind) :
    Reached s (d.selectLayout kind)

variable {s : Snapshot} {d : Drawing}

/-- A drawing shows the last snapshot that has led to it. -/
theorem Reached.shows (h : Reached s d) : WellFormed s.elements ∧ Shows s d := by
  induction h with
  | first hread surface oracle options store hd =>
    have hwf := Snapshot.wellFormed_of_read hread
    exact ⟨hwf, shows_first hwf hd⟩
  | update _ hread now hd _ =>
    have hwf := Snapshot.wellFormed_of_read hread
    cases (update_eq hwf _ now).symm.trans hd
    exact ⟨hwf, shows_updated _ _ now⟩
  | expireFlash _ now ih => exact ⟨ih.1, shows_expireFlash ih.2 ih.1 now⟩
  | moveNode _ id p store ih => exact ⟨ih.1, ih.2.rearranged (rearranged_moveNode _ id p store)⟩
  | restore _ store ih => exact ⟨ih.1, ih.2.rearranged (rearranged_restore _ store)⟩
  | selectLayout _ kind ih => exact ⟨ih.1, ih.2.rearranged (rearranged_selectLayout _ kind)⟩

/-- Every accepted snapshot leads to a drawing. -/
theorem Reached.exists_of_read {text : String} (h : Snapshot.read text = .ok s) :
    ∃ d, Reached s d := by
  obtain ⟨_, d, hd⟩ : ∃ restored d, (Drawing.first {} s none (.ofPrefs {})
      (⟨{}, false⟩ : LayoutStore MemoryStore)).1 = .ok (restored, d) :=
    exists_first (Snapshot.wellFormed_of_read h)
  exact ⟨d, .first h _ _ _ _ hd⟩

/-- An element with some property is on display just if one is in the snapshot, unless the
property is about places or highlights. -/
theorem Shows.exists_mem_iff (h : Shows s d) {P : Element → Prop}
    (hP : ∀ a b, a.unmarked = b.unmarked → P a → P b) :
    (∃ b ∈ d.surface.elements, P b) ↔ ∃ a ∈ s.elements, P a := by
  have hsub {as bs : List Element} (heq : as.map unmarked = bs.map unmarked) :
      (∃ a ∈ as, P a) → ∃ b ∈ bs, P b := by
    rintro ⟨a, ha, hPa⟩
    have hmem : a.unmarked ∈ bs.map unmarked := heq ▸ List.mem_map_of_mem ha
    obtain ⟨b, hb, hab⟩ := List.mem_map.1 hmem
    exact ⟨b, hb, hP a b hab.symm hPa⟩
  exact ⟨hsub h.unmarked_eq, hsub h.unmarked_eq.symm⟩

theorem hasClass_of_unmarked_eq {a b : Element} (h : a.unmarked = b.unmarked) {c : String}
    (hc : c ≠ flashClass) : a.hasClass c = b.hasClass c := by
  rw [← a.hasClass_unmarked hc, h, b.hasClass_unmarked hc]

/-! ## Offers and taps -/

/-- What is offered goes by the classes in the snapshot. -/
theorem mem_tappable_iff (h : Shows s d) (id : String) :
    id ∈ d.tappable ↔ ∃ a ∈ s.elements, a.id = id ∧
      a.hasClass actionClass = true ∧ a.hasClass enabledClass = true := by
  have hshown : id ∈ d.tappable ↔ ∃ b ∈ d.surface.elements, b.id = id ∧
      b.hasClass actionClass = true ∧ b.hasClass enabledClass = true := by
    simp only [tappable, Surface.select, Selector.enabledActions, Selector.matches, List.mem_map,
      List.mem_filter, List.all_cons, List.all_nil, Bool.and_true, Bool.and_eq_true]
    refine exists_congr fun b => ⟨?_, ?_⟩
    · rintro ⟨⟨hb, hclasses⟩, hid⟩
      exact ⟨hb, hid, hclasses⟩
    · rintro ⟨hb, hid, hclasses⟩
      exact ⟨⟨hb, hclasses⟩, hid⟩
  rw [hshown]
  apply h.exists_mem_iff
  rintro a b hab ⟨hid, haction, henabled⟩
  refine ⟨(congrArg Element.id hab).symm.trans hid, ?_, ?_⟩
  · rwa [← hasClass_of_unmarked_eq hab (by decide)]
  · rwa [← hasClass_of_unmarked_eq hab (by decide)]

/-- A tap is on a loaded action node that is marked as enabled. -/
theorem exists_of_resolveTap? {id : String} {t : Transition} (h : d.resolveTap? id = some t) :
    d.index[id]? = some t ∧ ∃ e ∈ d.surface.elements, e.id = id ∧ e.kind = .action ∧
      e.hasClass enabledClass = true := by
  unfold resolveTap? at h
  split at h
  · rename_i e he
    split at h
    · rename_i henabled
      obtain ⟨hmem, hid⟩ := Surface.mem_of_element? he
      rw [Element.isEnabledAction, Bool.and_eq_true, decide_eq_true_iff] at henabled
      exact ⟨h, e, hmem, hid, henabled⟩
    · cases h
  · cases h

/-- On such a node a tap takes what the index holds. -/
theorem resolveTap?_of_mem (hnodup : (d.surface.elements.map (·.id)).Nodup) {e : Element}
    (he : e ∈ d.surface.elements) (henabled : e.isEnabledAction = true) :
    d.resolveTap? e.id = d.index[e.id]? := by
  have hfound := (Surface.element?_eq_some_iff hnodup).2 ⟨he, rfl⟩
  simp only [resolveTap?, hfound, henabled, if_true]

/-- A tap goes by the kinds in the snapshot and by its panel. -/
theorem isSome_resolveTap?_iff (h : Shows s d) (hwf : WellFormed s.elements) (id : String) :
    (d.resolveTap? id).isSome = true ↔ ∃ a ∈ s.elements, a.id = id ∧ a.kind = .action ∧
      a.hasClass enabledClass = true ∧ s.panel.ListsAction id := by
  have hshown : (d.resolveTap? id).isSome = true ↔ ∃ b ∈ d.surface.elements, b.id = id ∧
      b.kind = .action ∧ b.hasClass enabledClass = true ∧ s.panel.ListsAction id := by
    rw [← ActionIndex.isSome_getElem?_ofSnapshot_iff, ← h.index]
    constructor
    · intro hsome
      obtain ⟨t, ht⟩ := Option.isSome_iff_exists.1 hsome
      obtain ⟨hindex, b, hb, hid, hkind, henabled⟩ := exists_of_resolveTap? ht
      exact ⟨b, hb, hid, hkind, henabled, by rw [hindex]; rfl⟩
    · rintro ⟨b, hb, rfl, hkind, henabled, hindex⟩
      rw [resolveTap?_of_mem (h.wellFormed hwf).nodup hb (by simp [isEnabledAction, hkind, henabled])]
      exact hindex
  rw [hshown]
  apply h.exists_mem_iff
  rintro a b hab ⟨hid, hkind, henabled, hlists⟩
  refine ⟨(congrArg Element.id hab).symm.trans hid, (congrArg Element.kind hab).symm.trans hkind,
    ?_, hlists⟩
  rwa [← hasClass_of_unmarked_eq hab (by decide)]

/-- What is offered, what takes a transition, and when an id is both or neither: the
element with the id, if it is marked as enabled at all, has to be marked as an action just
if it is one and the panel lists its transition. -/
theorem mem_tappable_iff_resolves_iff (h : Reached s d) (id : String) :
    (id ∈ d.tappable ↔ ∃ a ∈ s.elements, a.id = id ∧
      a.hasClass actionClass = true ∧ a.hasClass enabledClass = true) ∧
    ((d.resolveTap? id).isSome = true ↔ ∃ a ∈ s.elements, a.id = id ∧ a.kind = .action ∧
      a.hasClass enabledClass = true ∧ s.panel.ListsAction id) ∧
    ((id ∈ d.tappable ↔ (d.resolveTap? id).isSome = true) ↔
      ∀ a ∈ s.elements, a.id = id → a.hasClass enabledClass = true →
        (a.hasClass actionClass = true ↔ a.kind = .action ∧ s.panel.ListsAction id)) := by
  obtain ⟨hwf, hshows⟩ := h.shows
  have htappable := mem_tappable_iff hshows id
  have hresolves := isSome_resolveTap?_iff hshows hwf id
  refine ⟨htappable, hresolves, ?_⟩
  rw [htappable, hresolves]
  constructor
  · rintro hagree a ha rfl henabled
    constructor
    · intro haction
      obtain ⟨b, hb, hid, hkind, -, hlists⟩ := hagree.1 ⟨a, ha, rfl, haction, henabled⟩
      rw [hwf.eq_of_id_eq hb ha hid] at hkind
      exact ⟨hkind, hlists⟩
    · rintro ⟨hkind, hlists⟩
      obtain ⟨b, hb, hid, haction, -⟩ := hagree.2 ⟨a, ha, rfl, hkind, henabled, hlists⟩
      rwa [hwf.eq_of_id_eq hb ha hid] at haction
  · intro hagree
    constructor
    · rintro ⟨a, ha, hid, haction, henabled⟩
      obtain ⟨hkind, hlists⟩ := (hagree a ha hid henabled).1 haction
      exact ⟨a, ha, hid, hkind, henabled, hlists⟩
    · rintro ⟨a, ha, hid, hkind, henabled, hlists⟩
      exact ⟨a, ha, hid, (hagree a ha hid henabled).2 ⟨hkind, hlists⟩, henabled⟩

/-- An action that is marked both as an action and as enabled, and whose transition is
listed: it is offered, and a tap on it takes the transition. -/
theorem mem_tappable_iff_resolves_iff_of_marked :
    let text := "[[[\"event_a_b_x\",\"event-node\",\"x\",[\"enabled\",\"event-node\"]]]," ++
      "[false,[\x7b\"from\":\"a\",\"to\":\"b\",\"lbl\":\"x\"\x7d]]]"
    ∃ s d, Snapshot.read text = .ok s ∧ Reached s d ∧ "event_a_b_x" ∈ d.tappable ∧
      ("event_a_b_x" ∈ d.tappable ↔ (d.resolveTap? "event_a_b_x").isSome = true) := by
  intro text
  obtain ⟨s, hread, helements, henabled⟩ : ∃ s, Snapshot.read text = .ok s ∧
      s.elements = [⟨"event_a_b_x", .action, "x", .ofTexts ["enabled", "event-node"], none, none, none⟩] ∧
      s.panel.enabled = [⟨⟨"a", "b", "x", false⟩, ""⟩] :=
    Snapshot.exists_read_of_any (by decide +kernel)
  obtain ⟨d, hd⟩ := Reached.exists_of_read hread
  obtain ⟨htappable, -, hagree⟩ := mem_tappable_iff_resolves_iff hd "event_a_b_x"
  refine ⟨s, d, hread, hd, htappable.2 ?_, hagree.2 ?_⟩
  · rw [helements]
    exact ⟨_, List.mem_singleton_self _, rfl, by decide, by decide⟩
  · intro a ha _ _
    rw [helements, List.mem_singleton] at ha
    subst ha
    refine iff_of_true (by decide) ⟨rfl, ⟨"a", "b", "x", false⟩, ?_, by decide, by decide⟩
    rw [henabled]
    exact List.mem_singleton_self _

/-- An action that is marked as enabled, and whose transition is listed, but that is not
marked as an action: a tap on it takes the transition, and it is not offered. -/
theorem not_mem_tappable_of_unmarked_action :
    let text := "[[[\"event_a_b_x\",\"event-node\",\"x\",[\"enabled\"]]]," ++
      "[false,[\x7b\"from\":\"a\",\"to\":\"b\",\"lbl\":\"x\"\x7d]]]"
    ∃ s d, Snapshot.read text = .ok s ∧ Reached s d ∧
      ¬ ("event_a_b_x" ∈ d.tappable ↔ (d.resolveTap? "event_a_b_x").isSome = true) := by
  intro text
  obtain ⟨s, hread, helements, henabled⟩ : ∃ s, Snapshot.read text = .ok s ∧
      s.elements = [⟨"event_a_b_x", .action, "x", .ofTexts ["enabled"], none, none, none⟩] ∧
      s.panel.enabled = [⟨⟨"a", "b", "x", false⟩, ""⟩] :=
    Snapshot.exists_read_of_any (by decide +kernel)
  obtain ⟨d, hd⟩ := Reached.exists_of_read hread
  obtain ⟨hwf, hshows⟩ := hd.shows
  refine ⟨s, d, hread, hd, fun hagree => ?_⟩
  have hresolves : (d.resolveTap? "event_a_b_x").isSome = true := by
    rw [isSome_resolveTap?_iff hshows hwf, helements]
    refine ⟨_, List.mem_singleton_self _, rfl, rfl, by decide, ⟨"a", "b", "x", false⟩, ?_,
      by decide, by decide⟩
    rw [henabled]
    exact List.mem_singleton_self _
  have htappable := (mem_tappable_iff hshows _).1 (hagree.2 hresolves)
  rw [helements] at htappable
  obtain ⟨a, ha, -, haction, -⟩ := htappable
  rw [List.mem_singleton] at ha
  subst ha
  exact absurd haction (by decide)

end Statescope.Drawing
