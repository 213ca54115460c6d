-- SUMMARY: The ids that transitions are drawn under: no id is of two kinds, and those of an action together tell its transition.
import Mathlib
import Statescope.Graph.Transition
import Statescope.Proofs.Text.Split

/-!
# Ids of transitions

The parts of a transition are joined into ids without any escaping, so that one id may belong
to several transitions. Its beginning tells what is drawn under it. The ids of the two edges
of an action hold the id of the action and one of the states, so that all three ids together
have only one reading (`ids_separate`). Where the names of the states are without the
separator, one id is enough.
-/

namespace Statescope.Transition

/-! ## Kinds of ids -/

/-- What a transition may be drawn with. -/
inductive Part where
  | action
  | sourceEdge
  | targetEdge
  | directEdge
deriving DecidableEq

namespace Part

def id : Part → Transition → String
  | action => actionId
  | sourceEdge => sourceEdgeId
  | targetEdge => targetEdgeId
  | directEdge => directEdgeId

/-- What the ids of a kind start with. -/
def initial : Part → Char
  | action => 'e'
  | sourceEdge => 's'
  | targetEdge => 'a'
  | directEdge => 'd'

theorem head?_id (part : Part) (t : Transition) : (part.id t).toList.head? = some part.initial := by
  cases part <;>
    simp [id, initial, actionId, sourceEdgeId, targetEdgeId, directEdgeId, String.toList_append]

theorem initial_injective : Function.Injective initial := by
  intro part part' h
  cases part <;> cases part' <;> simp_all [initial]

/-- An id is of one kind, whatever the transitions. -/
theorem eq_of_id_eq {part part' : Part} {t t' : Transition} (h : part.id t = part'.id t') :
    part = part' := by
  have hhead := part.head?_id t
  rw [h, head?_id, Option.some_inj] at hhead
  exact initial_injective hhead.symm

end Part

variable {t t' : Transition}

theorem flashSet_of_label (h : t.label ≠ "") :
    t.flashSet = [Part.action, .sourceEdge, .targetEdge].map (·.id t) := by
  have hlabelled : ¬ t.isDirect = true := by rwa [isDirect, String.isEmpty_iff]
  rw [flashSet, if_neg hlabelled]
  rfl

theorem nodup_flashSet (h : t.label ≠ "") : t.flashSet.Nodup := by
  rw [flashSet_of_label h]
  exact List.Nodup.map (fun _ _ => Part.eq_of_id_eq) (by decide)

/-! ## Reading ids together -/

theorem source_eq_of_sourceEdgeId_eq (haction : t.actionId = t'.actionId)
    (h : t.sourceEdgeId = t'.sourceEdgeId) : t.source = t'.source := by
  unfold sourceEdgeId at h
  rw [haction, String.append_left_inj, String.append_left_inj] at h
  exact (String.append_right_inj _).1 h

theorem target_eq_of_targetEdgeId_eq (haction : t.actionId = t'.actionId)
    (h : t.targetEdgeId = t'.targetEdgeId) : t.target = t'.target := by
  unfold targetEdgeId at h
  rw [haction] at h
  exact (String.append_right_inj _).1 h

theorem label_eq_of_actionId_eq (hsource : t.source = t'.source) (htarget : t.target = t'.target)
    (h : t.actionId = t'.actionId) : t.label = t'.label := by
  unfold actionId at h
  rw [hsource, htarget] at h
  exact (String.append_right_inj _).1 h

/-! ## Names without the separator -/

/-- The separator of ids is in neither of the two names. -/
def HasPlainStates (t : Transition) : Prop := '_' ∉ t.source.toList ∧ '_' ∉ t.target.toList

theorem toList_actionId (t : Transition) :
    t.actionId.toList = "event_".toList ++
      (t.source.toList ++ '_' :: (t.target.toList ++ '_' :: t.label.toList)) := by
  simp [actionId, String.toList_append]

theorem toList_directEdgeId (t : Transition) :
    t.directEdgeId.toList = "direct_".toList ++
      (t.source.toList ++ '_' :: (t.target.toList ++ '_' :: [])) := by
  simp [directEdgeId, String.toList_append]

/-- Plain names and what follows them can be read off. -/
theorem HasPlainStates.eq_of_joined (h : t.HasPlainStates) (h' : t'.HasPlainStates)
    {rest rest' : List Char}
    (heq : t.source.toList ++ '_' :: (t.target.toList ++ '_' :: rest)
      = t'.source.toList ++ '_' :: (t'.target.toList ++ '_' :: rest')) :
    t.source = t'.source ∧ t.target = t'.target ∧ rest = rest' := by
  obtain ⟨hsource, htail⟩ := (Text.append_cons_inj h.1 h'.1).1 heq
  obtain ⟨htarget, hrest⟩ := (Text.append_cons_inj h.2 h'.2).1 htail
  exact ⟨String.toList_inj.1 hsource, String.toList_inj.1 htarget, hrest⟩

/-! ## Ids and transitions -/

/-- Ids of different kinds are different, even those of different transitions, and so are the
three ids of an action. Together they tell the two states and the label. If the separator is
not in the names of the states, then the id of the action tells all of this by itself, and the
id of a direct edge tells the states. -/
theorem ids_separate :
    (∀ (part part' : Part) (t t' : Transition), part ≠ part' → part.id t ≠ part'.id t') ∧
    (∀ t : Transition, t.label ≠ "" →
      t.flashSet = [t.actionId, t.sourceEdgeId, t.targetEdgeId] ∧ t.flashSet.Nodup) ∧
    (∀ t t' : Transition, t.label ≠ "" → t'.label ≠ "" → t.flashSet = t'.flashSet →
      t.source = t'.source ∧ t.target = t'.target ∧ t.label = t'.label) ∧
    (∀ t t' : Transition, t.HasPlainStates → t'.HasPlainStates →
      (t.actionId = t'.actionId →
        t.source = t'.source ∧ t.target = t'.target ∧ t.label = t'.label) ∧
      (t.directEdgeId = t'.directEdgeId → t.source = t'.source ∧ t.target = t'.target)) := by
  refine ⟨?_, ?_, ?_, ?_⟩
  · intro part part' t t' hne h
    exact hne (Part.eq_of_id_eq h)
  · intro t hlabel
    exact ⟨flashSet_of_label hlabel, nodup_flashSet hlabel⟩
  · intro t t' hlabel hlabel' h
    rw [flashSet_of_label hlabel, flashSet_of_label hlabel'] at h
    obtain ⟨haction, h⟩ := List.cons_eq_cons.1 h
    obtain ⟨hsourceEdge, h⟩ := List.cons_eq_cons.1 h
    have hsource := source_eq_of_sourceEdgeId_eq haction hsourceEdge
    have htarget := target_eq_of_targetEdgeId_eq haction (List.cons_eq_cons.1 h).1
    exact ⟨hsource, htarget, label_eq_of_actionId_eq hsource htarget haction⟩
  · intro t t' hplain hplain'
    constructor
    · intro h
      have hjoined := congrArg String.toList h
      rw [toList_actionId, toList_actionId, List.append_right_inj] at hjoined
      obtain ⟨hsource, htarget, hlabel⟩ := hplain.eq_of_joined hplain' hjoined
      exact ⟨hsource, htarget, String.toList_inj.1 hlabel⟩
    · intro h
      have hjoined := congrArg String.toList h
      rw [toList_directEdgeId, toList_directEdgeId, List.append_right_inj] at hjoined
      obtain ⟨hsource, htarget, -⟩ := hplain.eq_of_joined hplain' hjoined
      exact ⟨hsource, htarget⟩

/-- Two transitions with one action id are told apart by the edges of their actions. One that
differs from a third in its delay only has the same ids. -/
theorem ids_separate_of_shared_action :
    let t : Transition := ⟨"s", "a", "b_c", false⟩
    let t' : Transition := ⟨"s", "a_b", "c", false⟩
    let delayed : Transition := ⟨"s", "a", "b_c", true⟩
    t.actionId = t'.actionId ∧ t.flashSet ≠ t'.flashSet ∧ t.flashSet.Nodup ∧
      t.sourceEdgeId ≠ t'.targetEdgeId ∧ t.label = delayed.label := by
  intro t t' delayed
  obtain ⟨hkinds, hflash, htells, hplain⟩ := ids_separate
  refine ⟨by decide, fun h => ?_, (hflash t (by decide)).2, ?_, ?_⟩
  · obtain ⟨-, htarget, -⟩ := htells t t' (by decide) (by decide) h
    exact absurd htarget (by decide)
  · exact hkinds .sourceEdge .targetEdge t t' (by decide)
  · exact ((hplain t delayed (by unfold HasPlainStates; decide) (by unfold HasPlainStates; decide)).1
      (by decide)).2.2

end Statescope.Transition
