-- SUMMARY: Lists related element by element, and lists in which the first match has been changed.
import Mathlib.Data.List.Forall2
import Mathlib.Data.List.Nodup
import Statescope.FirstMatch

/-!
# Lists element by element

Laws of `List.Forall₂` and of `modifyFirst` for lists of any kind.
-/

namespace Statescope

/-! ## Related lists -/

section Related

variable {R : α → β → Prop} {as : List α} {bs : List β}

theorem exists_right_of_mem (h : List.Forall₂ R as bs) {a : α} (ha : a ∈ as) : ∃ b ∈ bs, R a b := by
  induction h with
  | nil => cases ha
  | @cons a' b' as bs hab _ ih =>
    rcases List.mem_cons.1 ha with rfl | ha
    · exact ⟨b', List.mem_cons_self, hab⟩
    · obtain ⟨b, hb, hR⟩ := ih ha
      exact ⟨b, List.mem_cons_of_mem _ hb, hR⟩

theorem exists_left_of_mem (h : List.Forall₂ R as bs) {b : β} (hb : b ∈ bs) : ∃ a ∈ as, R a b := by
  obtain ⟨a, ha, hR⟩ := exists_right_of_mem h.flip hb
  exact ⟨a, ha, hR⟩

theorem forall₂_trans {γ : Type _} {S : β → γ → Prop} {T : α → γ → Prop} {cs : List γ}
    (hT : ∀ a b c, R a b → S b c → T a c) (hab : List.Forall₂ R as bs)
    (hbc : List.Forall₂ S bs cs) : List.Forall₂ T as cs := by
  induction hab generalizing cs with
  | nil =>
    cases hbc
    exact .nil
  | cons ha _ ih =>
    cases hbc with
    | cons hb hbc => exact .cons (hT _ _ _ ha hb) (ih hbc)

theorem map_eq_of_forall₂ {γ : Type _} {f : α → γ} {g : β → γ} (h : List.Forall₂ R as bs)
    (hR : ∀ a b, R a b → g b = f a) : bs.map g = as.map f := by
  induction h with
  | nil => rfl
  | cons hab _ ih => rw [List.map_cons, List.map_cons, hR _ _ hab, ih]

theorem forall₂_map_self {f : α → β} (h : ∀ a ∈ as, R a (f a)) : List.Forall₂ R as (as.map f) :=
  List.forall₂_map_right_iff.2 (List.forall₂_same.2 h)

end Related

/-! ## The first match -/

theorem forall₂_modifyFirst {R : α → α → Prop} {p : α → Bool} {f : α → α} {as : List α}
    (hrefl : ∀ a, R a a) (h : ∀ a, as.find? p = some a → R a (f a)) :
    List.Forall₂ R as (modifyFirst p f as) := by
  induction as with
  | nil => exact .nil
  | cons a as ih =>
    unfold modifyFirst
    by_cases hp : p a = true
    · rw [if_pos hp]
      exact .cons (h a (by simp [hp])) (List.forall₂_same.2 fun a _ => hrefl a)
    · rw [if_neg hp]
      exact .cons (hrefl a) (ih fun a' ha' => h a' (by simpa [hp] using ha'))

/-- The first match is changed where it stands. -/
theorem modifyFirst_append_cons {p : α → Bool} {as : List α} {a : α} (f : α → α) (bs : List α)
    (h : ∀ b ∈ as, p b = false) (ha : p a = true) :
    modifyFirst p f (as ++ a :: bs) = as ++ f a :: bs := by
  induction as with
  | nil => simp [modifyFirst, ha]
  | cons b as ih =>
    simp only [List.mem_cons, forall_eq_or_imp] at h
    simp [modifyFirst, h.1, ih h.2]

theorem find?_eq_none_of_not_mem {key : α → String} {as : List α} {k : String}
    (h : k ∉ as.map key) : as.find? (key · = k) = none := by
  rw [List.find?_eq_none]
  intro a ha hkey
  exact h (List.mem_map.2 ⟨a, ha, of_decide_eq_true hkey⟩)

/-- Where keys are not repeated, an element is found by its key. -/
theorem find?_eq_some_of_mem {key : α → String} {as : List α} (hnodup : (as.map key).Nodup) {a : α}
    (ha : a ∈ as) : as.find? (key · = key a) = some a := by
  cases hfound : as.find? (key · = key a) with
  | none => simpa using List.find?_eq_none.1 hfound a ha
  | some b =>
    have hkey : key b = key a := by simpa using List.find?_some hfound
    rw [List.inj_on_of_nodup_map hnodup (List.mem_of_find?_eq_some hfound) ha hkey]

/-- Where keys are not repeated, the first element with a key is the only one. -/
theorem modifyFirst_eq_map {key : α → String} {f : α → α} {as : List α}
    (hnodup : (as.map key).Nodup) (k : String) :
    modifyFirst (key · = k) f as = as.map fun a => if key a = k then f a else a := by
  induction as with
  | nil => rfl
  | cons a as ih =>
    rw [List.map_cons, List.nodup_cons] at hnodup
    by_cases hk : key a = k
    · have hrest : ∀ b ∈ as, key b ≠ k := fun b hb hbk =>
        hnodup.1 (List.mem_map.2 ⟨b, hb, hbk.trans hk.symm⟩)
      have hmap : (as.map fun b => if key b = k then f b else b) = as :=
        (List.map_congr_left fun b hb => if_neg (hrest b hb)).trans (List.map_id _)
      simp [modifyFirst, hk, hmap]
    · simp [modifyFirst, hk, ih hnodup.2]

/-- Changing the first match of each of several keys changes all elements with one of
the keys, if it does not matter how often an element is changed. -/
theorem foldl_modifyFirst_eq_map {key : α → String} {f : α → α} {as : List α}
    (hnodup : (as.map key).Nodup) (hkey : ∀ a, key (f a) = key a) (hf : ∀ a, f (f a) = f a)
    (ks : List String) :
    ks.foldl (fun as k => modifyFirst (key · = k) f as) as
      = as.map fun a => if key a ∈ ks then f a else a := by
  induction ks generalizing as with
  | nil => simp
  | cons k ks ih =>
    have hkeys : ((as.map fun a => if key a = k then f a else a).map key).Nodup := by
      rw [List.map_map]
      convert hnodup using 2
      funext a
      simp only [Function.comp_apply]
      split
      · exact hkey a
      · rfl
    rw [List.foldl_cons, modifyFirst_eq_map hnodup, ih hkeys, List.map_map]
    apply List.map_congr_left
    intro a _
    simp only [Function.comp_apply, List.mem_cons]
    by_cases hk : key a = k <;> by_cases hks : key a ∈ ks <;> simp [hk, hks, hkey, hf]

end Statescope
