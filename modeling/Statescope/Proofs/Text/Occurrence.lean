-- SUMMARY: The first occurrence of a word in a text, which is where the text is cut, and what may stand around it.
import Mathlib.Data.List.TakeWhile
import Statescope.Proofs.Text.Split
import Statescope.Text.Blank

/-!
# First occurrences

A text is cut at the first occurrence of a word and at no other one. What stands after the
occurrence makes no difference to that, and what is put before the text makes none unless
the word begins there.
-/

namespace Statescope.Text

/-! ## Occurrences -/

/-- An occurrence of the word begins in `front`, which `rest` follows. -/
def BeginsIn (word front rest : List Char) : Prop :=
  ∃ before after, front ++ rest = before ++ word ++ after ∧ before.length < front.length

variable {word front rest before after cs : List Char} {c : Char}

theorem not_beginsIn_nil (word rest : List Char) : ¬ BeginsIn word [] rest := by
  rintro ⟨before, after, -, hlength⟩
  exact Nat.not_lt_zero _ hlength

theorem beginsIn_cons : BeginsIn word (c :: front) rest ↔
    (∃ after, c :: (front ++ rest) = word ++ after) ∨ BeginsIn word front rest := by
  constructor
  · rintro ⟨before, after, heq, hlength⟩
    cases before with
    | nil => exact .inl ⟨after, heq⟩
    | cons c' before =>
      rw [List.cons_append, List.cons_append, List.cons_append, List.cons.injEq] at heq
      exact .inr ⟨before, after, heq.2, Nat.lt_of_succ_lt_succ hlength⟩
  · rintro (⟨after, heq⟩ | ⟨before, after, heq, hlength⟩)
    · exact ⟨[], after, heq, Nat.zero_lt_succ _⟩
    · refine ⟨c :: before, after, ?_, Nat.succ_lt_succ hlength⟩
      rw [List.cons_append, heq, List.cons_append, List.cons_append]

/-- An occurrence that begins before another one ends before that one does. -/
theorem beginsIn_append_iff : BeginsIn word front (word ++ rest) ↔ BeginsIn word front word := by
  constructor
  · rintro ⟨before, after, heq, hlength⟩
    have hwhole : front ++ word <+: front ++ (word ++ rest) := ⟨rest, List.append_assoc ..⟩
    have hearlier : before ++ word <+: front ++ (word ++ rest) := ⟨after, heq.symm⟩
    obtain ⟨after', heq'⟩ := List.prefix_of_prefix_length_le hearlier hwhole (by
      rw [List.length_append, List.length_append]
      omega)
    exact ⟨before, after', heq'.symm, hlength⟩
  · rintro ⟨before, after, heq, hlength⟩
    refine ⟨before, after ++ rest, ?_, hlength⟩
    rw [← List.append_assoc, heq, List.append_assoc]

theorem beginsIn_singleton_iff : BeginsIn [c] front rest ↔ c ∈ front := by
  induction front with
  | nil => exact iff_of_false (not_beginsIn_nil _ _) List.not_mem_nil
  | cons c' front ih =>
    rw [beginsIn_cons, ih, List.mem_cons]
    simp [eq_comm]

/-! ## Cutting -/

/-- A text that starts with the word is cut there. -/
theorem splitFirst?_word_append (word after : List Char) :
    splitFirst? word (word ++ after) = some ([], after) := by
  have hafter : afterWord? word (word ++ after) = some after := afterWord?_eq_some.2 rfl
  cases htext : word ++ after with
  | nil =>
    obtain ⟨rfl, rfl⟩ := List.append_eq_nil_iff.1 htext
    rfl
  | cons c cs =>
    rw [htext] at hafter
    simp only [splitFirst?, hafter]

/-- What is put before a text stays before the cut, unless the word begins there. -/
theorem splitFirst?_append_of_not_beginsIn (h : ¬ BeginsIn word front cs) :
    splitFirst? word (front ++ cs)
      = (splitFirst? word cs).map fun (before, after) => (front ++ before, after) := by
  induction front with
  | nil =>
    rw [List.nil_append]
    exact (Option.map_id' ..).symm
  | cons c front ih =>
    rw [beginsIn_cons, not_or] at h
    have hnone : afterWord? word (c :: (front ++ cs)) = none := by
      rw [Option.eq_none_iff_forall_ne_some]
      exact fun after hafter => h.1 ⟨after, afterWord?_eq_some.1 hafter⟩
    simp only [List.cons_append, splitFirst?, hnone, ih h.2, Option.map_map]
    rfl

theorem not_beginsIn_of_splitFirst? (h : splitFirst? word cs = some (before, after)) :
    ¬ BeginsIn word before (word ++ after) := by
  induction cs generalizing before with
  | nil =>
    rw [splitFirst?, Option.ite_none_right_eq_some] at h
    cases h.2
    exact not_beginsIn_nil _ _
  | cons c cs ih =>
    rw [splitFirst?] at h
    split at h
    · cases h
      exact not_beginsIn_nil _ _
    · rename_i hnone
      obtain ⟨⟨before', after'⟩, hsplit, heq⟩ := Option.map_eq_some_iff.1 h
      cases heq
      rw [beginsIn_cons, not_or]
      refine ⟨?_, ih hsplit⟩
      rintro ⟨rest, heq⟩
      rw [← List.append_assoc, ← eq_append_of_splitFirst? hsplit] at heq
      rw [afterWord?_eq_some.2 heq] at hnone
      cases hnone

/-- A text is cut at the first occurrence of the word. -/
theorem splitFirst?_eq_some_iff : splitFirst? word cs = some (before, after) ↔
    cs = before ++ word ++ after ∧ ¬ BeginsIn word before (word ++ after) := by
  constructor
  · exact fun h => ⟨eq_append_of_splitFirst? h, not_beginsIn_of_splitFirst? h⟩
  · rintro ⟨rfl, hfirst⟩
    rw [List.append_assoc, splitFirst?_append_of_not_beginsIn hfirst, splitFirst?_word_append]
    simp only [Option.map_some, List.append_nil]

theorem splitFirst?_singleton_eq_some_iff :
    splitFirst? [c] cs = some (before, after) ↔ cs = before ++ c :: after ∧ c ∉ before := by
  rw [splitFirst?_eq_some_iff, beginsIn_singleton_iff, List.append_assoc, List.singleton_append]

/-- Whether the word begins in a text can be seen from where the whole is cut. -/
theorem beginsIn_iff_any_splitFirst? : BeginsIn word front rest ↔
    ((splitFirst? word (front ++ rest)).any fun cut => cut.1.length < front.length) = true := by
  induction front with
  | nil => simp [not_beginsIn_nil]
  | cons c front ih =>
    rw [beginsIn_cons, List.cons_append, splitFirst?, ih]
    split
    · rename_i after hafter
      exact iff_of_true (.inl ⟨after, afterWord?_eq_some.1 hafter⟩) (by simp)
    · rename_i hnone
      have hhere : ¬ ∃ after, c :: (front ++ rest) = word ++ after := by
        rintro ⟨after, heq⟩
        rw [afterWord?_eq_some.2 heq] at hnone
        cases hnone
      rw [or_iff_right hhere, Option.any_map]
      simp

instance (word front rest : List Char) : Decidable (BeginsIn word front rest) :=
  decidable_of_iff _ beginsIn_iff_any_splitFirst?.symm

/-! ## Trimming -/

/-- White space around a text makes no difference when it is trimmed. -/
theorem trim_append_append {blanks blanks' : List Char} (h : ∀ c ∈ blanks, isBlank c = true)
    (h' : ∀ c ∈ blanks', isBlank c = true) (cs : List Char) :
    trim (blanks ++ cs ++ blanks') = trim cs := by
  have hreverse : ∀ c ∈ blanks'.reverse, isBlank c = true :=
    fun c hc => h' c (List.mem_reverse.1 hc)
  rw [trim, trim, List.append_assoc, List.dropWhile_append_of_pos h, List.dropWhile_append]
  split
  · rename_i hempty
    rw [List.isEmpty_iff.1 hempty, List.dropWhile_eq_nil_iff.2 h', List.reverse_nil,
      List.dropWhile_nil]
  · rw [List.reverse_append, List.dropWhile_append_of_pos hreverse]

theorem mem_dropWhile_of_mem {p : Char → Bool} (hmem : c ∈ cs) (hc : p c = false) :
    c ∈ cs.dropWhile p := by
  rw [← List.takeWhile_append_dropWhile (p := p) (l := cs), List.mem_append] at hmem
  refine hmem.resolve_left fun h => ?_
  rw [List.mem_takeWhile_imp h] at hc
  cases hc

/-- Only white space is trimmed. -/
theorem mem_trim_of_mem (hmem : c ∈ cs) (hc : isBlank c = false) : c ∈ trim cs := by
  rw [trim, List.mem_reverse]
  exact mem_dropWhile_of_mem (List.mem_reverse.2 (mem_dropWhile_of_mem hmem hc)) hc

end Statescope.Text
