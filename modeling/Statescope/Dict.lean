-- SUMMARY: Dictionaries and sets of texts, kept in code-point order of their keys.
import Std.Data.ExtTreeMap
import Std.Data.ExtTreeSet

/-!
# Dictionaries

`Dict α` maps texts to values and `Tags` is a set of texts. Both are ordered by
the code points of the keys, which is also the order of their UTF-8 bytes, and
both are equal as soon as they have the same members. What is written to a
document or shown in a listing follows this order.
-/

namespace Statescope

abbrev Dict (α : Type) := Std.ExtTreeMap String α compare

abbrev Tags := Std.ExtTreeSet String compare

namespace Dict

/-- The dictionary of `pairs`; of two pairs with one key the later counts. -/
def ofPairs (pairs : List (String × α)) : Dict α :=
  pairs.foldl (fun d p => d.insert p.1 p.2) ∅

@[simp] theorem getElem?_insert_self (d : Dict α) (k : String) (v : α) : (d.insert k v)[k]? = some v := by
  simp

@[simp] theorem getElem?_insert_of_ne (d : Dict α) {k k' : String} (h : k ≠ k') (v : α) :
    (d.insert k v)[k']? = d[k']? := by
  simp [Std.ExtTreeMap.getElem?_insert, h]

@[simp] theorem getElem?_erase_of_ne (d : Dict α) {k k' : String} (h : k ≠ k') :
    (d.erase k)[k']? = d[k']? := by
  simp [Std.ExtTreeMap.getElem?_erase, h]

@[simp] theorem getElem?_modify (d : Dict α) (k k' : String) (f : α → α) :
    (d.modify k f)[k']? = if k' = k then d[k']?.map f else d[k']? := by
  by_cases h : k' = k
  · simp [h]
  · simp [Std.ExtTreeMap.getElem?_modify, h, Ne.symm h]

theorem getElem?_foldl_insert (pairs : List (String × α)) (d : Dict α) (k : String) :
    (pairs.foldl (fun d p => d.insert p.1 p.2) d)[k]? = (pairs.reverse.lookup k).or d[k]? := by
  induction pairs generalizing d with
  | nil => simp
  | cons p pairs ih =>
    have hlast : (d.insert p.1 p.2)[k]? = (List.lookup k [p]).or d[k]? := by
      obtain ⟨name, v⟩ := p
      by_cases h : k = name
      · simp [h]
      · simp [List.lookup_cons, Std.ExtTreeMap.getElem?_insert, Ne.symm h, beq_eq_false_iff_ne.2 h]
    rw [List.foldl_cons, ih, hlast, List.reverse_cons, List.lookup_append, Option.or_assoc]

/-- The last pair with a key counts. -/
theorem getElem?_ofPairs (pairs : List (String × α)) (k : String) :
    (ofPairs pairs)[k]? = pairs.reverse.lookup k := by
  simp [ofPairs, getElem?_foldl_insert]

theorem mem_of_getElem?_ofPairs {pairs : List (String × α)} {k : String} {v : α}
    (h : (ofPairs pairs)[k]? = some v) : (k, v) ∈ pairs := by
  rw [getElem?_ofPairs, List.lookup_eq_some_iff] at h
  obtain ⟨before, after, hpairs, -⟩ := h
  have : (k, v) ∈ pairs.reverse := by simp [hpairs]
  simpa using this

/-- A dictionary is made of its pairs. -/
@[simp] theorem ofPairs_toList (d : Dict α) : ofPairs d.toList = d := by
  apply Std.ExtTreeMap.ext_getElem?
  intro k
  cases hread : (ofPairs d.toList)[k]? with
  | some v => exact (Std.ExtTreeMap.mem_toList_iff_getElem?_eq_some.1 (mem_of_getElem?_ofPairs hread)).symm
  | none =>
    rw [getElem?_ofPairs, List.lookup_eq_none_iff] at hread
    cases hv : d[k]? with
    | none => rfl
    | some v =>
      have hmem : (k, v) ∈ d.toList.reverse := by
        simpa [Std.ExtTreeMap.mem_toList_iff_getElem?_eq_some] using hv
      simpa using hread _ hmem

end Dict

/-- The set of the given texts. -/
def Tags.ofTexts (texts : List String) : Tags :=
  texts.foldl (fun s t => s.insert t) ∅

theorem Tags.mem_insert_iff {s : Tags} {t t' : String} : t' ∈ s.insert t ↔ t = t' ∨ t' ∈ s := by
  simp

theorem Tags.mem_erase_iff {s : Tags} {t t' : String} : t' ∈ s.erase t ↔ t ≠ t' ∧ t' ∈ s := by
  simp

theorem Tags.mem_foldl_insert {texts : List String} {s : Tags} {t : String} :
    t ∈ texts.foldl (fun s t => s.insert t) s ↔ t ∈ texts ∨ t ∈ s := by
  induction texts generalizing s with
  | nil => simp
  | cons t' texts ih =>
    rw [List.foldl_cons, ih, mem_insert_iff, List.mem_cons, or_assoc, ← or_assoc, ← or_assoc]
    simp [or_comm, eq_comm]

@[simp] theorem Tags.mem_ofTexts {texts : List String} {t : String} :
    t ∈ ofTexts texts ↔ t ∈ texts := by
  simp [ofTexts, mem_foldl_insert]

@[simp] theorem Tags.ofTexts_toList (s : Tags) : ofTexts s.toList = s := by
  apply Std.ExtTreeSet.ext_mem
  intro t
  rw [mem_ofTexts, Std.ExtTreeSet.mem_toList]

end Statescope
