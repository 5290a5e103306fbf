import TermSync.Config

/-!
# Intervals that are zero

An interval that a variable gives is positive. One that no variable gives is that of the file, which
may be any number, or else the default, which is positive. So an interval of a run is zero exactly
if the file says so and no variable says otherwise.

Main statement: `load_eq_zero_iff`.
-/

namespace TermSync.Config

/-- The intervals, with the variables that give them. -/
def intervals : List (String × (Config → Nat)) :=
  [("PLAYGROUND_FLUSH_INTERVAL_MS", flushInterval),
    ("PLAYGROUND_RECONNECT_INTERVAL_MS", reconnectInterval),
    ("PLAYGROUND_RESIZE_DEBOUNCE_MS", resizeDebounce)]

/-- An interval that a variable gives is positive. -/
theorem interval?_ne_zero {s : String} {n : Nat} (h : interval? s = some n) : n ≠ 0 := by
  unfold interval? at h
  dsimp only at h
  split at h
  · cases h
  · cases h
  · split at h
    · next hpos =>
      rw [← Option.some.inj h]
      exact Nat.ne_of_gt hpos.1
    · cases h

theorem override_eq_zero_iff (environment : String → Option String) (name : String) (value : Nat) :
    override environment name value = 0 ↔
      (environment name).bind interval? = none ∧ value = 0 := by
  unfold override
  cases hv : (environment name).bind interval? with
  | none => simp
  | some n =>
    obtain ⟨s, -, hs⟩ := Option.bind_eq_some_iff.mp hv
    simp [interval?_ne_zero hs]

theorem withOverrides_interval (c : Config) (environment : String → Option String) :
    ∀ p ∈ intervals, p.2 (c.withOverrides environment) = override environment p.1 (p.2 c) := by
  simp [intervals, withOverrides]

/-- The defaults are positive. -/
theorem interval_default : ∀ p ∈ intervals, p.2 {} ≠ 0 := by
  simp [intervals]

/-- An interval of a run is zero exactly if its variable gives none and the file says zero. -/
theorem load_eq_zero_iff (file : Option Text.Bytes) (environment : String → Option String) :
    ∀ p ∈ intervals, p.2 (load file environment) = 0 ↔
      (environment p.1).bind interval? = none ∧ ∃ c, ofFile file = .ok c ∧ p.2 c = 0 := by
  intro p hp
  unfold load
  rw [withOverrides_interval _ environment p hp, override_eq_zero_iff]
  refine and_congr_right fun _ => ?_
  cases ofFile file with
  | ok c => simp
  | error e => simp [interval_default p hp]

end TermSync.Config
