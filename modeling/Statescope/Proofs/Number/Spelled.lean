-- SUMMARY: Spelled numbers are finite, and few characters are used to spell them.
import Statescope.Number.Spelled
import Statescope.Proofs.Number.Numeral

/-!
# Spelled numbers

Only finite numbers are read, and only from texts over a small alphabet.
-/

namespace Statescope.Spelled

/-- The characters that numbers are spelled with. -/
def alphabet : List Char := "+-.eE0123456789".toList

variable {c : Char} {cs : List Char}

theorem mem_alphabet_of_digit? {d : Fin 10} (h : Numeral.digit? c = some d) : c ∈ alphabet := by
  unfold Numeral.digit? at h
  split at h <;> first | decide | cases h

theorem mem_digits (h : c ∈ cs) : c ∈ alphabet ∨ c ∈ (digits cs).2 := by
  induction cs with
  | nil => cases h
  | cons c' cs ih =>
    rw [digits]
    split
    · rename_i hdigit
      rcases List.mem_cons.1 h with rfl | h
      · exact .inl (mem_alphabet_of_digit? hdigit)
      · exact ih h
    · exact .inr h

theorem mem_sign (h : c ∈ cs) : c ∈ alphabet ∨ c ∈ (sign cs).2 := by
  unfold sign
  split
  · rcases List.mem_cons.1 h with rfl | h
    · exact .inl (by decide)
    · exact .inr h
  · rcases List.mem_cons.1 h with rfl | h
    · exact .inl (by decide)
    · exact .inr h
  · exact .inr h

theorem mem_alphabet_of_power? {e : Int} (hread : power? cs = some e) (h : c ∈ cs) :
    c ∈ alphabet := by
  cases cs with
  | nil => cases h
  | cons c' cs =>
    rw [power?, Option.ite_none_right_eq_some] at hread
    obtain ⟨he, hread⟩ := hread
    -- There is nothing behind the digits, or nothing would have been read.
    have hrest : (digits (sign cs).2).2 = [] := by
      simp only at hread
      split at hread
      · cases hread
      · rename_i hdigits
        rw [hdigits]
      · cases hread
    rcases List.mem_cons.1 h with rfl | h
    · rcases he with rfl | rfl <;> decide
    · rcases mem_sign h with h | h
      · exact h
      · refine (mem_digits h).resolve_right ?_
        rw [hrest]
        exact List.not_mem_nil

/-- Nothing else stands in a text that is read as a number. -/
theorem mem_alphabet_of_float? {x : Float} (hread : float? cs = some x) (h : c ∈ cs) :
    c ∈ alphabet := by
  simp only [float?, bind, Option.bind_eq_some_iff] at hread
  obtain ⟨_, -, e, hpower, -⟩ := hread
  rcases mem_sign h with h | h
  · exact h
  rcases mem_digits h with h | h
  · exact h
  split at hpower
  · rename_i rest hpoint
    rw [hpoint] at h
    rcases List.mem_cons.1 h with rfl | h
    · decide
    · rcases mem_digits h with h | h
      · exact h
      · exact mem_alphabet_of_power? hpower h
  · exact mem_alphabet_of_power? hpower h

/-- A number that is spelled out is finite. -/
theorem isFinite_of_float? {x : Float} (h : float? cs = some x) : Binary64.isFinite x = true := by
  simp only [float?, bind, Option.bind_eq_some_iff] at h
  obtain ⟨_, _, _, _, hread⟩ := h
  exact Decimal.isFinite_of_toFloat? hread

end Statescope.Spelled
