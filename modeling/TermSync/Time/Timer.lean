/-!
# Timers

A timer fires once after a delay, or again and again after each period. It is a value: it says when
it fires next, and the event that it raises is up to its owner. Time is in milliseconds.

A timer that has fired for the last time is still held by its owner until it is cancelled; to
cancel a timer is to drop it.

Each firing ends a wait, and for a repeating timer begins the next one. Of two timers that fire at
the same time, the one whose wait began first is the first, and of two waits that began at the same
time, that of the timer with the lower serial number. Main law: `firings_le` (no firing is early,
and none lies in the future).
-/

namespace TermSync.Time

/-- A timer. One with a period of zero never fires. -/
structure Timer where
  /-- When it fires next, if it does. -/
  due : Option Nat
  /-- How long it waits for each firing. -/
  wait : Nat
  /-- Whether it fires again and again. -/
  repeats : Bool
  /-- Timers that are started later have higher numbers. -/
  serial : Nat := 0
deriving DecidableEq, Repr

namespace Timer

/-- A timer that fires every `period` from now on, first after one period. -/
def every (now period : Nat) (serial : Nat := 0) : Timer where
  due := if period = 0 then none else some (now + period)
  wait := period
  repeats := true
  serial := serial

/-- A timer that fires once, after `delay`. -/
def after (now delay : Nat) (serial : Nat := 0) : Timer where
  due := some (now + delay)
  wait := delay
  repeats := false
  serial := serial

/-- The times `t`, `t + p`, … up to `now`. The period is positive. -/
def multiples (t p now : Nat) : List Nat :=
  if now < t then [] else (List.range ((now - t) / p + 1)).map fun k => t + k * p

/-- The times at which a timer fires until `now`. -/
def firings (timer : Timer) (now : Nat) : List Nat :=
  match timer.due with
  | none => []
  | some t =>
    if timer.repeats then (if timer.wait = 0 then [] else multiples t timer.wait now)
    else if now < t then []
    else [t]

/-- The timer after its firings until `now`. -/
def advance (timer : Timer) (now : Nat) : Timer :=
  match timer.due with
  | none => timer
  | some t =>
    if now < t then timer
    else if timer.repeats then
      if timer.wait = 0 then timer
      else { timer with due := some (t + ((now - t) / timer.wait + 1) * timer.wait) }
    else { timer with due := none }

/-- No firing lies in the future, and none comes before it is due. -/
theorem firings_le (timer : Timer) (now t : Nat) (h : t ∈ timer.firings now) :
    t ≤ now ∧ ∃ d, timer.due = some d ∧ d ≤ t := by
  unfold firings at h
  split at h
  · simp at h
  · next d hd =>
    split at h
    · split at h
      · simp at h
      · unfold multiples at h
        split at h
        · simp at h
        · simp only [List.mem_map, List.mem_range] at h
          obtain ⟨k, hk, rfl⟩ := h
          refine ⟨?_, d, hd, by omega⟩
          have : k * timer.wait ≤ (now - d) / timer.wait * timer.wait :=
            Nat.mul_le_mul_right timer.wait (by omega)
          have := Nat.div_mul_le_self (now - d) timer.wait
          omega
    · split at h
      · simp at h
      · simp only [List.mem_singleton] at h
        exact ⟨by omega, d, hd, by omega⟩

end Timer
end TermSync.Time
