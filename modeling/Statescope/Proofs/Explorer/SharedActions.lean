-- SUMMARY: Of several enabled transitions that share an action, a tap takes the one that is listed last.
import Statescope.Proofs.Explorer.Driving

/-!
# Shared actions

The parts of a transition are joined into the id of its action without any escaping, so
that one action may stand for several enabled transitions. Each of them has a button of its
own. A tap on the action always takes one of them, and it is the same one each time.
-/

namespace Statescope

namespace PanelData

/-- Of the labelled transitions with some action, one is listed last. -/
theorem exists_listsLast {p : PanelData} {t : Transition} (ht : t ∈ p.enabled.map (·.transition))
    (hlabel : t.label ≠ "") :
    ∃ u, u.label ≠ "" ∧ u.actionId = t.actionId ∧ p.ListsLast u := by
  have hsome : ((ActionIndex.ofSnapshot ⟨[], p, none, none⟩)[t.actionId]?).isSome = true :=
    ActionIndex.isSome_getElem?_ofSnapshot_iff.2 ⟨t, ht, hlabel, rfl⟩
  obtain ⟨u, hu⟩ := Option.isSome_iff_exists.1 hsome
  exact ⟨u, ActionIndex.getElem?_ofSnapshot_eq_some_iff.1 hu⟩

/-- A transition that shares its action with no other one is listed last. -/
theorem listsLast_of_forall_eq {p : PanelData} {t : Transition}
    (ht : t ∈ p.enabled.map (·.transition)) (hlabel : t.label ≠ "")
    (h : ∀ u ∈ p.enabled.map (·.transition), u.label ≠ "" → u.actionId = t.actionId → u = t) :
    p.ListsLast t := by
  obtain ⟨u, hu, hid, hlast⟩ := exists_listsLast ht hlabel
  exact h u hlast.mem hu hid ▸ hlast

end PanelData

/-- Under the id of its action, the index holds a transition itself just if it is listed
last among those with the action. -/
theorem ActionIndex.getElem?_actionId_eq_some_self_iff {s : Snapshot} {t : Transition}
    (hlabel : t.label ≠ "") : (ofSnapshot s)[t.actionId]? = some t ↔ s.panel.ListsLast t := by
  rw [getElem?_ofSnapshot_eq_some_iff]
  exact ⟨fun h => h.2.2, fun h => ⟨hlabel, rfl, h⟩⟩

namespace Explorer

variable {e : Explorer σ} {container : String} {d : Diagram} {s : Snapshot} {t : Transition}

/-- A tap on an enabled action on display takes what the index holds. -/
theorem tap_of_mem (hd : e.diagrams[container]? = some d) (hshows : d.Shows s)
    (hwf : Element.WellFormed s.elements) {a : Element} (ha : a ∈ d.drawing.surface.elements)
    (henabled : a.isEnabledAction = true) (ht : (ActionIndex.ofSnapshot s)[a.id]? = some t) :
    e.tap container a.id = (some t, e.fire container t) := by
  have hresolve : e.diagrams[container]? >>= (·.drawing.resolveTap? a.id) = some t := by
    rw [hd, Option.bind_eq_bind, Option.bind_some,
      Drawing.resolveTap?_of_mem (hshows.drawing.wellFormed hwf).nodup ha henabled,
      hshows.drawing.index, ht]
  simp only [tap, hresolve]

variable [BlobStore σ] {store : LayoutStore σ} {prefs : Prefs} {host : Host} {now : Int}
  {log : Log}

/-- Of the labelled transitions that share an action, the index holds the one that the
panel lists last, and so each of them just if it is the last one itself or shares its action
with no other. The button of each takes that transition itself, while a tap on the action,
where it is on display and enabled, takes what the index holds. -/
theorem tap_takes_last_listed (h : Run (initial store prefs host now) log e) :
    (∀ (s : Snapshot), ∀ t ∈ s.panel.enabled.map (·.transition), t.label ≠ "" →
      (∃ last, (ActionIndex.ofSnapshot s)[t.actionId]? = some last ∧ last.label ≠ "" ∧
        last.actionId = t.actionId ∧ s.panel.ListsLast last) ∧
      ((ActionIndex.ofSnapshot s)[t.actionId]? = some t ↔ s.panel.ListsLast t) ∧
      ((∀ u ∈ s.panel.enabled.map (·.transition),
        u.label ≠ "" → u.actionId = t.actionId → u = t) →
          (ActionIndex.ofSnapshot s)[t.actionId]? = some t)) ∧
    ∀ container d, e.diagrams[container]? = some d → ∃ s, log.lastAccepted? container = some s ∧
      ∀ t ∈ s.panel.enabled.map (·.transition), t.label ≠ "" →
        e.click container t = (true, e.fire container t) ∧
        ∀ a ∈ d.drawing.surface.elements, a.id = t.actionId → a.isEnabledAction = true →
          ∃ last, (ActionIndex.ofSnapshot s)[t.actionId]? = some last ∧
            e.tap container t.actionId = (some last, e.fire container last) ∧
            (last = t ↔ s.panel.ListsLast t) := by
  have hindex (s : Snapshot) {t : Transition} (ht : t ∈ s.panel.enabled.map (·.transition))
      (hlabel : t.label ≠ "") : ∃ last, (ActionIndex.ofSnapshot s)[t.actionId]? = some last ∧
        last.label ≠ "" ∧ last.actionId = t.actionId ∧ s.panel.ListsLast last := by
    obtain ⟨last, hlast⟩ := PanelData.exists_listsLast ht hlabel
    exact ⟨last, ActionIndex.getElem?_ofSnapshot_eq_some_iff.2 hlast, hlast⟩
  constructor
  · intro s t ht hlabel
    have hself := ActionIndex.getElem?_actionId_eq_some_self_iff (s := s) hlabel
    refine ⟨hindex s ht hlabel, hself, fun halone => hself.2 ?_⟩
    exact PanelData.listsLast_of_forall_eq ht hlabel halone
  · intro container d hd
    obtain ⟨s, hs, hwf, hshows⟩ := exists_shows_of_run h hd
    refine ⟨s, hs, fun t ht hlabel => ⟨click_of_mem hd hshows ht, fun a ha hid henabled => ?_⟩⟩
    obtain ⟨last, hlast, -⟩ := hindex s ht hlabel
    refine ⟨last, hlast, ?_, ?_⟩
    · rw [← hid] at hlast ⊢
      exact tap_of_mem hd hshows hwf ha henabled hlast
    · rw [← ActionIndex.getElem?_actionId_eq_some_self_iff hlabel, hlast, Option.some_inj]

/-- The text of a snapshot with one action for two transitions. -/
def sharedActionText : String :=
  "[[[\"event_s_a_b_c\",\"event-node\",\"\",[\"enabled\"]]]," ++
    "[false,[\x7b\"from\":\"s\",\"to\":\"a\",\"lbl\":\"b_c\"\x7d," ++
    "\x7b\"from\":\"s\",\"to\":\"a_b\",\"lbl\":\"c\"\x7d]]]"

/-- The second of the two is taken by its button and by a tap on the action. -/
theorem tap_takes_last_listed_of_second :
    let commands := [.render "c" sharedActionText true none]
    let e := (initial (σ := MemoryStore) ⟨{}, false⟩ {} {} 0).run commands
    let t : Transition := ⟨"s", "a_b", "c", false⟩
    e.click "c" t = (true, e.fire "c" t) ∧ e.tap "c" t.actionId = (some t, e.fire "c" t) := by
  intro commands e t
  obtain ⟨-, htaps⟩ := tap_takes_last_listed
    (run_transcript (initial (σ := MemoryStore) ⟨{}, false⟩ {} {} 0) commands)
  have hshown : (e.diagrams["c"]?.any fun d => d.drawing.surface.elements.any fun a =>
      a.id = t.actionId && a.isEnabledAction) = true := by decide +kernel
  have haccepted : ((((initial (σ := MemoryStore) ⟨{}, false⟩ {} {} 0).transcript
      commands).lastAccepted? "c").any fun s => s.panel.enabled.map (·.transition)
        = [⟨"s", "a", "b_c", false⟩, t]) = true := by decide +kernel
  obtain ⟨d, hd, hshown⟩ := (Option.any_eq_true _ _).1 hshown
  obtain ⟨a, ha, hfound⟩ := List.any_eq_true.1 hshown
  rw [Bool.and_eq_true, decide_eq_true_iff] at hfound
  obtain ⟨s, hs, htransitions⟩ := htaps "c" d hd
  rw [hs, Option.any_some, decide_eq_true_iff] at haccepted
  obtain ⟨hclick, htap⟩ := htransitions t (by simp [haccepted]) (by decide)
  obtain ⟨last, -, htap, hlast⟩ := htap a ha hfound.1 hfound.2
  rw [hlast.2 ⟨[⟨"s", "a", "b_c", false⟩], [], haccepted, nofun⟩] at htap
  exact ⟨hclick, htap⟩

/-- The first of the two is listed and has a button, but a tap on its action takes the
other one. -/
theorem tap_not_button_of_first :
    let e := (initial (σ := MemoryStore) ⟨{}, false⟩ {} {} 0).run
      [.render "c" sharedActionText true none]
    let t : Transition := ⟨"s", "a", "b_c", false⟩
    (∃ s, Snapshot.read sharedActionText = .ok s ∧ t ∈ s.panel.enabled.map (·.transition) ∧
      t.label ≠ "" ∧ (ActionIndex.ofSnapshot s)[t.actionId]? ≠ some t) ∧
    (e.click "c" t).1 = true ∧ (e.tap "c" t.actionId).1 = some ⟨"s", "a_b", "c", false⟩ := by
  intro e t
  refine ⟨?_, by decide +kernel⟩
  obtain ⟨s, hread, hlisted, hother⟩ : ∃ s, Snapshot.read sharedActionText = .ok s ∧
      t ∈ s.panel.enabled.map (·.transition) ∧ (ActionIndex.ofSnapshot s)[t.actionId]? ≠ some t :=
    Snapshot.exists_read_of_any (by decide +kernel)
  exact ⟨s, hread, hlisted, by decide, hother⟩

end Explorer

end Statescope
