/-!
# Instants and durations

Time is counted in nanoseconds.  A duration is a number of them, and an instant
is the duration since the start of the clock.  Timers are coarser than the
clock: they wake a sleeper at a whole millisecond, the first one at or after
the instant that was asked for.
-/

namespace Redelivery.Time

/-- Nanoseconds in a millisecond. -/
def nanosPerMilli : Nat :=
  1000000

/-- A whole number of milliseconds as a duration. -/
def ofMillis (millis : Nat) : Nat :=
  millis * nanosPerMilli

/-- The least number of whole milliseconds that covers a duration. -/
def ceilMillis (duration : Nat) : Nat :=
  (duration + (nanosPerMilli - 1)) / nanosPerMilli

/-- The instant at which a timer set for `instant` wakes its sleeper: the first
whole millisecond at or after it. -/
def wake (instant : Nat) : Nat :=
  ofMillis (ceilMillis instant)

@[simp]
theorem ceilMillis_ofMillis (millis : Nat) : ceilMillis (ofMillis millis) = millis := by
  simp only [ofMillis, ceilMillis, nanosPerMilli]
  omega

/-- A timer never wakes its sleeper early. -/
theorem le_wake (instant : Nat) : instant ≤ wake instant := by
  simp only [wake, ofMillis, ceilMillis, nanosPerMilli]
  omega

/-- A whole millisecond is its own waking instant. -/
@[simp]
theorem wake_ofMillis (millis : Nat) : wake (ofMillis millis) = ofMillis millis := by
  simp only [wake, ceilMillis_ofMillis]

end Redelivery.Time
