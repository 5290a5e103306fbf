import TermSync.Time.Timer

/-!
# Timers as time passes

A timer keeps its number, and it is still to fire unless it fires. One that fires once fires when it
is due, and is then done with. One that fires again and again is never further from its next firing
than a period; but with a period of zero it never fires.

Main statements: `due_or_fires`, `advance_once` (what becomes of a timer that fires once),
`Paced.advance` and `Paced.due` (of one that fires again and again).
-/

namespace TermSync.Time.Timer

variable {timer : Timer}

/-- A timer keeps its number. -/
theorem serial_advance (timer : Timer) (now : Nat) : (timer.advance now).serial = timer.serial := by
  unfold advance
  split
  · rfl
  · split
    · rfl
    · split
      · split <;> rfl
      · rfl

/-- A timer that was to fire is still to fire, unless it fires. -/
theorem due_or_fires (h : timer.due.isSome = true) (now : Nat) :
    (timer.advance now).due.isSome = true ∨ timer.firings now ≠ [] := by
  obtain ⟨t, ht⟩ := Option.isSome_iff_exists.mp h
  unfold advance firings
  rw [ht]
  dsimp only
  by_cases hn : now < t
  · rw [if_pos hn]
    exact .inl h
  · rw [if_neg hn, if_neg hn]
    cases timer.repeats with
    | true =>
      left
      rw [if_pos rfl]
      split
      · exact h
      · rfl
    | false =>
      right
      rw [if_neg (by simp)]
      exact List.cons_ne_nil t []

/-- What becomes of a timer that fires once: it waits, or it fires and is done with. -/
theorem advance_once (h : timer.repeats = false) (now : Nat) :
    timer.advance now = timer ∧ timer.firings now = [] ∧
        (∀ t, timer.due = some t → now < t) ∨
      ∃ t, timer.due = some t ∧ t ≤ now ∧ timer.advance now = { timer with due := none } ∧
        timer.firings now = [t] := by
  unfold advance firings
  rw [h]
  cases ht : timer.due with
  | none => exact .inl ⟨rfl, rfl, by simp⟩
  | some t =>
    dsimp only
    by_cases hn : now < t
    · rw [if_pos hn, if_neg (by simp), if_pos hn]
      refine .inl ⟨rfl, rfl, ?_⟩
      rintro u ⟨⟩
      exact hn
    · rw [if_neg hn, if_neg (by simp), if_neg (by simp), if_neg hn]
      exact .inr ⟨t, rfl, Nat.le_of_not_lt hn, rfl, rfl⟩

/-- A timer fires again and again: as long as the clock shows no more than `now`, the next firing is
at most a period away. With a period of zero there is none. -/
structure Paced (period now : Nat) (timer : Timer) : Prop where
  repeats : timer.repeats = true
  wait : timer.wait = period
  due : period ≠ 0 → ∃ t, timer.due = some t ∧ t ≤ now + period
  silent : period = 0 → timer.due = none

theorem paced_every (now period serial : Nat) : Paced period now (every now period serial) where
  repeats := rfl
  wait := rfl
  due h := ⟨now + period, if_neg h, Nat.le_refl _⟩
  silent h := if_pos h

namespace Paced

variable {period now moment : Nat}

theorem later (h : Paced period now timer) (hn : now ≤ moment) : Paced period moment timer where
  repeats := h.repeats
  wait := h.wait
  due hp := by
    obtain ⟨t, ht, hle⟩ := h.due hp
    exact ⟨t, ht, by omega⟩
  silent := h.silent

/-- When it has fired until some moment, the next firing is at most a period after that. -/
theorem advance (h : Paced period now timer) (hn : now ≤ moment) :
    Paced period moment (timer.advance moment) := by
  by_cases hp : period = 0
  · have hsame : timer.advance moment = timer := by
      unfold Timer.advance
      rw [h.silent hp]
    rw [hsame]
    exact h.later hn
  · obtain ⟨t, ht, hle⟩ := h.due hp
    unfold Timer.advance
    rw [ht]
    dsimp only
    by_cases hwaits : moment < t
    · rw [if_pos hwaits]
      exact h.later hn
    · rw [if_neg hwaits, h.repeats, if_pos rfl, h.wait, if_neg hp]
      refine ⟨rfl, rfl, fun _ => ⟨_, rfl, ?_⟩, fun hzero => absurd hzero hp⟩
      have hdiv := Nat.div_mul_le_self (moment - t) period
      rw [Nat.add_mul, Nat.one_mul]
      omega

/-- It fires when it is due, and until then it waits. -/
theorem fires_or_waits (h : Paced period now timer) {t : Nat} (ht : timer.due = some t)
    (moment : Nat) :
    t ≤ moment ∧ timer.firings moment ≠ [] ∨ moment < t ∧ timer.advance moment = timer := by
  have hp : period ≠ 0 := by
    intro hp
    rw [h.silent hp] at ht
    cases ht
  by_cases hwaits : moment < t
  · refine .inr ⟨hwaits, ?_⟩
    unfold Timer.advance
    rw [ht]
    exact if_pos hwaits
  · refine .inl ⟨Nat.le_of_not_lt hwaits, ?_⟩
    unfold firings
    rw [ht, h.repeats, h.wait]
    dsimp only
    rw [if_pos rfl, if_neg hp, multiples, if_neg hwaits]
    simp

theorem firings_of_zero (h : Paced 0 now timer) : timer.firings moment = [] := by
  unfold firings
  rw [h.silent rfl]

end Paced

end TermSync.Time.Timer
