-- SUMMARY: What splitting gives: parts without the separator, and a text put together from what is found.
import Mathlib.Data.List.Basic
import Statescope.Text.Split

/-!
# Laws of splitting

A text is split at a separator just where it was joined, if the parts have none.
-/

namespace Statescope.Text

theorem splitOn_of_not_mem {sep : Char} {part : List Char} (h : sep ∉ part) :
    splitOn sep part = [part] := by
  induction part with
  | nil => rfl
  | cons c cs ih =>
    rw [List.mem_cons, not_or] at h
    rw [splitOn, if_neg (Ne.symm h.1), ih h.2]

theorem splitOn_append_cons {sep : Char} {part : List Char} (h : sep ∉ part) (rest : List Char) :
    splitOn sep (part ++ sep :: rest) = part :: splitOn sep rest := by
  induction part with
  | nil => rw [List.nil_append, splitOn, if_pos rfl]
  | cons c cs ih =>
    rw [List.mem_cons, not_or] at h
    rw [List.cons_append, splitOn, if_neg (Ne.symm h.1), ih h.2]

theorem splitFirst?_of_not_mem {c : Char} {cs : List Char} (h : c ∉ cs) :
    splitFirst? [c] cs = none := by
  induction cs with
  | nil => rfl
  | cons c' cs ih =>
    rw [List.mem_cons, not_or] at h
    simp only [splitFirst?, afterWord?, if_neg h.1, ih h.2, Option.map_none]

/-- A text is cut at the first occurrence of a character. -/
theorem splitFirst?_append_cons {c : Char} {before : List Char} (h : c ∉ before)
    (after : List Char) : splitFirst? [c] (before ++ c :: after) = some (before, after) := by
  induction before with
  | nil => simp only [List.nil_append, splitFirst?, afterWord?, if_pos]
  | cons c' before ih =>
    rw [List.mem_cons, not_or] at h
    simp only [List.cons_append, splitFirst?, afterWord?, if_neg h.1, ih h.2, Option.map_some]

/-- What stands before a character and after it can be told, if it does not stand before. -/
theorem append_cons_inj {c : Char} {before before' after after' : List Char} (h : c ∉ before)
    (h' : c ∉ before') :
    before ++ c :: after = before' ++ c :: after' ↔ before = before' ∧ after = after' := by
  constructor
  · intro heq
    have hcut := splitFirst?_append_cons h after
    rw [heq, splitFirst?_append_cons h', Option.some_inj, Prod.mk.injEq] at hcut
    exact ⟨hcut.1.symm, hcut.2.symm⟩
  · rintro ⟨rfl, rfl⟩
    rfl

/-- What stands before and after a word makes up the text with it. -/
theorem eq_append_of_splitFirst? {word cs before after : List Char}
    (h : splitFirst? word cs = some (before, after)) : cs = before ++ word ++ after := by
  induction cs generalizing before with
  | nil =>
    rw [splitFirst?, Option.ite_none_right_eq_some] at h
    obtain ⟨rfl, heq⟩ := h
    cases heq
    rfl
  | cons c cs ih =>
    rw [splitFirst?] at h
    split at h
    · rename_i rest hrest
      cases h
      exact afterWord?_eq_some.1 hrest
    · obtain ⟨⟨before', after'⟩, hsplit, heq⟩ := Option.map_eq_some_iff.1 h
      cases heq
      rw [ih hsplit, List.cons_append, List.cons_append]

/-! ## Parts and lines -/

theorem splitOn_ne_nil (sep : Char) (cs : List Char) : splitOn sep cs ≠ [] := by
  cases cs with
  | nil => exact List.cons_ne_nil _ _
  | cons c cs =>
    rw [splitOn]
    split
    · exact List.cons_ne_nil _ _
    · split <;> exact List.cons_ne_nil _ _

theorem not_mem_of_mem_splitOn {sep : Char} {cs part : List Char} (h : part ∈ splitOn sep cs) :
    sep ∉ part := by
  induction cs generalizing part with
  | nil =>
    rw [splitOn, List.mem_singleton] at h
    subst h
    exact List.not_mem_nil
  | cons c cs ih =>
    rw [splitOn] at h
    split at h
    · rcases List.mem_cons.1 h with rfl | h
      · exact List.not_mem_nil
      · exact ih h
    · rename_i hc
      split at h
      · rename_i first parts hparts
        rw [hparts] at ih
        rcases List.mem_cons.1 h with rfl | h
        · exact List.not_mem_cons_of_ne_of_not_mem (Ne.symm hc) (ih List.mem_cons_self)
        · exact ih (List.mem_cons_of_mem _ h)
      · rename_i hparts
        exact absurd hparts (splitOn_ne_nil sep cs)

theorem mem_of_mem_dropReturn {c : Char} {line : List Char} (h : c ∈ dropReturn line) : c ∈ line := by
  unfold dropReturn at h
  split at h
  · exact List.dropLast_subset _ h
  · exact h

/-- There is no line feed in a line. -/
theorem not_mem_of_mem_lines {cs line : List Char} (h : line ∈ lines cs) : '\n' ∉ line := by
  have hended (h : line ∈ (splitOn '\n' cs).dropLast.map dropReturn) : '\n' ∉ line := by
    obtain ⟨part, hpart, rfl⟩ := List.mem_map.1 h
    exact fun hmem =>
      not_mem_of_mem_splitOn (List.dropLast_subset _ hpart) (mem_of_mem_dropReturn hmem)
  simp only [lines] at h
  split at h
  · rename_i c rest hlast
    rcases List.mem_append.1 h with h | h
    · exact hended h
    · rw [List.mem_singleton] at h
      subst h
      exact not_mem_of_mem_splitOn (List.mem_of_getLast? hlast)
  · exact hended h

theorem dropReturn_concat (line : List Char) : dropReturn (line ++ ['\r']) = line := by
  simp [dropReturn]

/-- A text can be put together from any lines. -/
theorem lines_flatMap {ls : List (List Char)} (h : ∀ line ∈ ls, '\n' ∉ line) :
    lines (ls.flatMap (· ++ ['\r', '\n'])) = ls := by
  have hparts : splitOn '\n' (ls.flatMap (· ++ ['\r', '\n'])) = ls.map (· ++ ['\r']) ++ [[]] := by
    induction ls with
    | nil => rfl
    | cons line ls ih =>
      rw [List.forall_mem_cons] at h
      have hfirst : '\n' ∉ line ++ ['\r'] := by simp [h.1]
      have happend : (line :: ls).flatMap (· ++ ['\r', '\n'])
          = (line ++ ['\r']) ++ '\n' :: ls.flatMap (· ++ ['\r', '\n']) := by simp
      rw [happend, splitOn_append_cons hfirst, ih h.2]
      rfl
  have hdrop : (fun line => dropReturn (line ++ ['\r'])) = id := funext dropReturn_concat
  simp only [lines, hparts, List.dropLast_concat, List.getLast?_concat, List.map_map,
    Function.comp_def, hdrop, List.map_id]

end Statescope.Text
