-- SUMMARY: Clock readings and spans of time, both in nanoseconds.

/-!
# Units of time

A clock reading is an integer and a span of time a natural number, both in
nanoseconds. Timers wake up at whole milliseconds only.
-/

namespace Statescope

/-- Nanoseconds per millisecond. -/
def nanosPerMilli : Nat := 1000000

/-- A span of so many milliseconds. -/
def millis (n : Nat) : Nat := n * nanosPerMilli

/-- The last whole millisecond by a time. -/
def wholeMilli (time : Int) : Int := time / nanosPerMilli * nanosPerMilli

theorem wholeMilli_le (time : Int) : wholeMilli time ≤ time := by
  unfold wholeMilli nanosPerMilli
  omega

theorem wholeMilli_mono {time time' : Int} (h : time ≤ time') : wholeMilli time ≤ wholeMilli time' := by
  unfold wholeMilli nanosPerMilli
  omega

end Statescope
