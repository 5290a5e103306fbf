import TermSync.Time.Instant

/-!
# What is left as time passes

Instants outside leap seconds are as far from each other as their nanoseconds since the epoch. The
time until an expiry in a leap second is a second less, as long as the time of day is later than
that of the expiry: when midnight has passed, the second is counted again. So what is left may come
to more than before, by one second at most; but once nothing is left, nothing ever is.

Main statements: `since_eq`, `left_le_or_midnight` and `left_nonpos`.
-/

namespace TermSync.Time.Instant

variable {t n later : Instant}

theorem isLeap_eq_true_iff : t.isLeap = true ↔ nanosPerSecond ≤ t.nanos := by
  simp [isLeap]

theorem isLeap_eq_false_iff : t.isLeap = false ↔ t.nanos < nanosPerSecond := by
  simp [isLeap]

/-- Nanoseconds since the epoch. A leap second has those of the one before, and as many again. -/
def total (t : Instant) : Int := t.seconds * nanosPerSecond + t.nanos

theorem total_addMillis (t : Instant) (ms : Nat) :
    (t.addMillis ms).total = t.total + ms * 1000000 := by
  simp only [total, addMillis, nanosPerSecond]
  omega

/-- The clock never shows a leap second. -/
theorem isLeap_addMillis (t : Instant) (ms : Nat) : (t.addMillis ms).isLeap = false :=
  isLeap_eq_false_iff.mpr (Nat.mod_lt _ (by decide))

theorem total_addMillis_le (t : Instant) {m k : Nat} (h : m ≤ k) :
    (t.addMillis m).total ≤ (t.addMillis k).total := by
  rw [total_addMillis, total_addMillis]
  omega

/-- Whether an expiry lies in a leap second and its time of day was passed: then that second is not
counted. -/
def Uncounted (t n : Instant) : Prop := t.isLeap = true ∧ t.timeOfDay < n.timeOfDay

instance (t n : Instant) : Decidable (t.Uncounted n) := inferInstanceAs (Decidable (_ ∧ _))

/-- The nanoseconds that are left until an expiry. -/
def left (t n : Instant) : Int :=
  t.total - n.total - if t.Uncounted n then nanosPerSecond else 0

/-- So much is left from a point in time that does not lie in a leap second. -/
theorem since_eq (hn : n.isLeap = false) : t.since n = t.left n := by
  have hleft : t.left n =
      (t.seconds - n.seconds + if t.Uncounted n then -1 else 0) * nanosPerSecond +
        ((t.nanos : Int) - n.nanos) := by
    unfold left total nanosPerSecond
    split <;> omega
  rw [hleft, since, hn]
  congr 3
  unfold Uncounted
  by_cases hthen : t.timeOfDay < n.timeOfDay
  · rw [if_neg (by omega), if_pos hthen]
    simp only [hthen, and_true]
  · rw [if_neg hthen]
    simp [hthen]

/-- Later on less is left, unless a leap second was not counted and is counted again. -/
theorem left_le_or_midnight (h : n.total ≤ later.total) :
    t.left later ≤ t.left n ∨
      t.left later ≤ t.left n + nanosPerSecond ∧ t.Uncounted n ∧ ¬ t.Uncounted later := by
  unfold left nanosPerSecond
  by_cases hthen : t.Uncounted n
  · by_cases hnow : t.Uncounted later
    · left
      rw [if_pos hthen, if_pos hnow]
      omega
    · right
      rw [if_pos hthen, if_neg hnow]
      exact ⟨by omega, hthen, hnow⟩
  · left
    rw [if_neg hthen]
    split <;> omega

/-- Once nothing is left, nothing will be. -/
theorem left_nonpos (ht : t.nanos < 2 * nanosPerSecond) (hn : n.isLeap = false)
    (hl : later.isLeap = false) (h : n.total ≤ later.total) (hnone : t.left n ≤ 0) :
    t.left later ≤ 0 := by
  rcases left_le_or_midnight (t := t) h with hle | ⟨-, hthen, hnow⟩
  · exact Int.le_trans hle hnone
  · have hleap := isLeap_eq_true_iff.mp hthen.1
    have hpassed := hthen.2
    have hagain : ¬ t.timeOfDay < later.timeOfDay := fun hday => hnow ⟨hthen.1, hday⟩
    rw [isLeap_eq_false_iff] at hn hl
    rw [left, if_pos hthen] at hnone
    rw [left, if_neg hnow]
    simp only [total, timeOfDay, nanosPerSecond, secondsPerDay] at *
    -- No two of the three are within the same second.
    have hbefore : t.seconds < n.seconds := by omega
    have hafter : n.seconds < later.seconds := by omega
    omega

end TermSync.Time.Instant
