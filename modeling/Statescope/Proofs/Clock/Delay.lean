-- SUMMARY: Whatever is asked for, a timer gets a delay within its bounds, and a period to match.
import Statescope.Clock.Timer
import Statescope.Proofs.Number.Binary64

/-!
# Delays

A delay is brought within bounds before a timer sees it, infinite and undefined ones
included. Every such delay is a duration, so that no timer is ever refused one.
-/

namespace Statescope

open Binary64

/-! ## Bounds -/

theorem isPositive_minDelay : IsPositive minDelay 7205759403792794 (-56) := ⟨by decide, rfl⟩

theorem isPositive_maxDelay : IsPositive maxDelay 5937362789990400 (-36) := ⟨by decide, rfl⟩

/-- The bound of durations is a power of two. -/
theorem isPositive_durationBound : IsPositive 18446744073709551616 4503599627370496 12 :=
  ⟨by decide, rfl⟩

/-- What is clamped is a positive number within the bounds. -/
theorem exists_isPositive_clampDelay (x : Float) :
    ∃ m e, IsPositive (clampDelay x) m e ∧ minDelay ≤ clampDelay x ∧ clampDelay x ≤ maxDelay := by
  have hmin : ∃ m e, IsPositive minDelay m e ∧ minDelay ≤ minDelay ∧ minDelay ≤ maxDelay :=
    ⟨_, _, isPositive_minDelay, by decide, by decide⟩
  unfold clampDelay
  split
  · rename_i hfinite
    split
    · exact hmin
    · rename_i hlow
      obtain ⟨m, e, hx⟩ := isPositive_of_not_lt hfinite isPositive_minDelay hlow
      rw [lt_iff_of_isPositive hx isPositive_minDelay] at hlow
      split
      · exact ⟨_, _, isPositive_maxDelay, by decide, by decide⟩
      · rename_i hhigh
        rw [lt_iff_of_isPositive isPositive_maxDelay hx] at hhigh
        refine ⟨m, e, hx, ?_, ?_⟩
        · rw [le_iff_of_isPositive isPositive_minDelay hx]
          omega
        · rw [le_iff_of_isPositive hx isPositive_maxDelay]
          omega
  · exact hmin

theorem isDuration_clampDelay (x : Float) : isDuration (clampDelay x) = true := by
  obtain ⟨m, e, hx, -, hmax⟩ := exists_isPositive_clampDelay x
  have hlt : clampDelay x < 18446744073709551616 := by
    rw [le_iff_of_isPositive hx isPositive_maxDelay] at hmax
    rw [lt_iff_of_isPositive hx isPositive_durationBound]
    omega
  simp [isDuration, zero_le_of_isPositive hx, hlt]

/-! ## Periods -/

/-- The period of a clamped delay, in nanoseconds: from a tenth of a second to a day. -/
theorem Timer.period_bounds {t : Timer} {x : Float} (h : t.delay = clampDelay x) :
    100000000 ≤ t.period ∧ t.period ≤ 86400000000000 := by
  obtain ⟨m, e, hx, hmin, hmax⟩ := exists_isPositive_clampDelay x
  have hlow := roundScaled_le_roundScaled
    (magnitude_le_magnitude isPositive_minDelay hx hmin) (1000 * nanosPerMilli)
  have hhigh := roundScaled_le_roundScaled
    (magnitude_le_magnitude hx isPositive_maxDelay hmax) (1000 * nanosPerMilli)
  have hminPeriod : roundScaled minDelay (1000 * nanosPerMilli) = 100000000 := by decide
  have hmaxPeriod : roundScaled maxDelay (1000 * nanosPerMilli) = 86400000000000 := by decide
  rw [period, h]
  omega

end Statescope
