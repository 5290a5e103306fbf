import TermSync.Time.Instant

/-!
# Countdown texts

What is left of a session is shown as hours, minutes and seconds. Main law: `parts_lt` (minutes and
seconds stay below sixty).
-/

namespace TermSync.Time

/-- Shown while it is not known when the session ends. -/
def unknownCountdown : String := "--:--:--"

/-- A number with two digits at least. -/
def twoDigits (n : Nat) : String :=
  if n < 10 then "0" ++ toString n else toString n

/-- The whole seconds that a countdown shows: none below zero. -/
def shownSeconds (left : Span) : Nat := left.wholeSeconds.toNat

/-- Hours, minutes and seconds. -/
def clockParts (seconds : Nat) : Nat × Nat × Nat :=
  (seconds / 3600, seconds % 3600 / 60, seconds % 60)

/-- Minutes and seconds stay below sixty, and together the parts are the number of seconds. -/
theorem parts_lt (s : Nat) :
    (clockParts s).2.1 < 60 ∧ (clockParts s).2.2 < 60 ∧
      (clockParts s).1 * 3600 + (clockParts s).2.1 * 60 + (clockParts s).2.2 = s := by
  simp only [clockParts]
  omega

/-- The text of a countdown. -/
def countdownText : Option Span → String
  | none => unknownCountdown
  | some left =>
    let (h, m, s) := clockParts (shownSeconds left)
    twoDigits h ++ ":" ++ twoDigits m ++ ":" ++ twoDigits s

end TermSync.Time
