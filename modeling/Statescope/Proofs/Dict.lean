-- SUMMARY: A dictionary and the list of its pairs determine each other.
import Mathlib
import Statescope.Dict
import Statescope.Proofs.Pointwise

/-!
# Dictionaries as lists

A dictionary is listed in the order of its keys. Lists in this order are the same as
soon as they have the same members.
-/

namespace Statescope.Dict

/-! ## The order of keys -/

theorem irrefl_compare (f : β → String) : Std.Irrefl fun a b => compare (f a) (f b) = .lt :=
  ⟨fun a => by simp⟩

theorem antisymm_compare (f : β → String) : Std.Antisymm fun a b => compare (f a) (f b) = .lt :=
  ⟨fun a b hlt hgt => by simp [Std.OrientedCmp.gt_of_lt hlt] at hgt⟩

/-! ## Pairs and keys -/

/-- Pairs in the order of their keys are the pairs of their dictionary. -/
theorem toList_ofPairs {pairs : List (String × α)}
    (h : pairs.Pairwise fun p q => compare p.1 q.1 = .lt) : (ofPairs pairs).toList = pairs := by
  have := irrefl_compare (Prod.fst : String × α → String)
  have := antisymm_compare (Prod.fst : String × α → String)
  apply Std.ExtTreeMap.ordered_keys_toList.eq_of_mem_iff h
  rintro ⟨key, v⟩
  rw [Std.ExtTreeMap.mem_toList_iff_getElem?_eq_some]
  refine ⟨mem_of_getElem?_ofPairs, fun hmem => ?_⟩
  cases hread : (ofPairs pairs)[key]? with
  | none =>
    rw [getElem?_ofPairs, List.lookup_eq_none_iff] at hread
    simpa using hread _ (List.mem_reverse.2 hmem)
  | some v' =>
    have hmem' := mem_of_getElem?_ofPairs hread
    have hkeys : (pairs.map Prod.fst).Nodup :=
      List.pairwise_map.2 (h.imp fun hlt heq => by simp [heq] at hlt)
    have hpair := List.inj_on_of_nodup_map hkeys hmem hmem' rfl
    rw [(Prod.mk.inj hpair).2]

/-- Dictionaries with the same members have the same keys. -/
theorem keys_eq_of_isSome_iff {d d' : Dict α} (h : ∀ k : String, d[k]?.isSome = d'[k]?.isSome) :
    d.keys = d'.keys := by
  have := irrefl_compare fun k => k
  have := antisymm_compare fun k => k
  apply Std.ExtTreeMap.ordered_keys.eq_of_mem_iff Std.ExtTreeMap.ordered_keys
  intro k
  rw [Std.ExtTreeMap.mem_keys, Std.ExtTreeMap.mem_keys, Std.ExtTreeMap.mem_iff_isSome_getElem?,
    Std.ExtTreeMap.mem_iff_isSome_getElem?, h]

/-- What is inserted pair by pair takes the place of what was there. -/
theorem getElem?_foldl_insert_toList (b d : Dict α) (k : String) :
    (b.toList.foldl (fun d p => d.insert p.1 p.2) d)[k]? = b[k]?.or d[k]? := by
  rw [getElem?_foldl_insert, ← getElem?_ofPairs, ofPairs_toList]

/-- Where keys are not repeated, an entry belongs to the first one with its key. -/
theorem getElem?_ofPairs_filterMap {key : β → String} {f : β → Option α} {bs : List β}
    (hnodup : (bs.map key).Nodup) (k : String) :
    (ofPairs (bs.filterMap fun b => (f b).map fun v => (key b, v)))[k]?
      = bs.find? (key · = k) >>= f := by
  rw [getElem?_ofPairs]
  induction bs with
  | nil => rfl
  | cons b bs ih =>
    rw [List.map_cons, List.nodup_cons] at hnodup
    have hhead : ([b].filterMap fun b => (f b).map fun v => (key b, v)).reverse.lookup k
        = if k = key b then f b else none := by
      by_cases hk : k = key b <;> cases hb : f b <;> simp [hb, hk, List.lookup_cons, beq_eq_decide]
    rw [← List.singleton_append, List.filterMap_append, List.reverse_append, List.lookup_append,
      ih hnodup.2, hhead, List.singleton_append]
    by_cases hk : k = key b
    · subst hk
      simp [find?_eq_none_of_not_mem hnodup.1]
    · simp [hk, Ne.symm hk]

/-! ## Values -/

@[simp] theorem map_insert {α β : Type} (d : Dict α) (k : String) (v : α) (f : α → β) :
    (d.insert k v).map (fun _ v => f v) = (d.map fun _ v => f v).insert k (f v) := by
  refine Std.ExtTreeMap.ext_getElem? fun k' => ?_
  rw [Std.ExtTreeMap.getElem?_map, Std.ExtTreeMap.getElem?_insert, Std.ExtTreeMap.getElem?_insert,
    Std.ExtTreeMap.getElem?_map]
  split <;> rfl

theorem values_eq (d : Dict α) : d.values = d.toList.map Prod.snd := by
  have hfold : d.values = d.foldr (fun _ v vs => v :: vs) [] := by
    obtain ⟨⟨d⟩⟩ := d
    induction d using Quotient.inductionOn
    rfl
  rw [hfold, Std.ExtTreeMap.foldr_eq_foldr_toList, List.map_eq_foldr]

@[simp] theorem values_map {α β : Type} (d : Dict α) (f : α → β) :
    (d.map fun _ v => f v).values = d.values.map f := by
  rw [values_eq, values_eq, Std.ExtTreeMap.toList_map, List.map_map, List.map_map]
  rfl

end Statescope.Dict
