import TermSync.Time.Timestamp

/-!
# Instants that texts name

What a text names lies within a second of the calendar, or in the leap second after it.

Main statement: `nanos_lt_of_parse?`.
-/

namespace TermSync.Time.Timestamp

private theorem digit?_lt {c : Char} {d : Nat} (h : digit? c = some d) : d < 10 := by
  unfold digit? at h
  split at h
  · next hc =>
    have hle : c.toNat ≤ '9'.toNat := hc.2
    have hd : '9'.toNat - '0'.toNat = 9 := by decide
    cases h
    omega
  · cases h

/-- A number of digits is less than the power of ten with as many zeros. -/
private theorem digits_lt (width : Nat) (cs : List Char) {value count : Nat}
    (h : value < Nat.pow 10 count) :
    (digits width cs value count).1 < Nat.pow 10 (digits width cs value count).2.1 ∧
      (digits width cs value count).2.1 ≤ count + width := by
  induction width generalizing cs value count with
  | zero => exact ⟨h, Nat.le_refl _⟩
  | succ width ih =>
    cases cs with
    | nil => exact ⟨h, Nat.le_add_right count (width + 1)⟩
    | cons c cs =>
      rw [digits]
      cases hd : digit? c with
      | none => exact ⟨h, Nat.le_add_right count (width + 1)⟩
      | some d =>
        have hlt := digit?_lt hd
        have hnext : value * 10 + d < Nat.pow 10 (count + 1) := by
          have hpow : Nat.pow 10 (count + 1) = Nat.pow 10 count * 10 := rfl
          omega
        obtain ⟨hvalue, hcount⟩ := ih cs hnext
        exact ⟨hvalue, by rw [← Nat.add_assoc, Nat.add_right_comm]; exact hcount⟩

private theorem fraction_lt {cs r : List Char} {n : Nat} (h : fraction cs = some (n, r)) :
    n < nanosPerSecond := by
  unfold fraction at h
  split at h
  · next ds =>
    have hlt := digits_lt 9 ds (show 0 < Nat.pow 10 0 by decide)
    split at h
    · cases h
    · next m k rest _ hd =>
      rw [hd] at hlt
      obtain ⟨hm, hk⟩ := hlt
      cases h
      have hpos : 0 < Nat.pow 10 (9 - k) := Nat.pow_pos (by decide)
      have hsplit : Nat.pow 10 k * Nat.pow 10 (9 - k) = Nat.pow 10 9 := by
        rw [show Nat.pow 10 k * Nat.pow 10 (9 - k) = Nat.pow 10 (k + (9 - k)) from
          (Nat.pow_add 10 k (9 - k)).symm, Nat.add_sub_cancel' (by simpa using hk)]
      calc m * Nat.pow 10 (9 - k) < Nat.pow 10 k * Nat.pow 10 (9 - k) :=
            Nat.mul_lt_mul_of_pos_right hm hpos
        _ = nanosPerSecond := hsplit
  · cases h
    decide

private theorem exists_of_bind {α β : Type} {o : Option α} {f : α → Option β} {b : β}
    (h : (o >>= f) = some b) : ∃ a, o = some a ∧ f a = some b := Option.bind_eq_some_iff.mp h

/-- An instant that a text names has the nanoseconds of one second, or of that and a leap second. -/
theorem nanos_lt_of_parse? {text : String} {t : Instant} (h : parse? text = some t) :
    t.nanos < 2 * nanosPerSecond := by
  have hnanos {second nanos : Nat} (hlt : nanos < nanosPerSecond) :
      (if second = 60 then nanosPerSecond + nanos else nanos) < 2 * nanosPerSecond := by
    split <;> omega
  unfold parse? ofChars? at h
  obtain ⟨⟨year, r⟩, -, h⟩ := exists_of_bind h
  obtain ⟨r, -, h⟩ := exists_of_bind h
  obtain ⟨⟨month, r⟩, -, h⟩ := exists_of_bind h
  obtain ⟨r, -, h⟩ := exists_of_bind h
  obtain ⟨⟨day, r⟩, -, h⟩ := exists_of_bind h
  cases r with
  | nil =>
    obtain ⟨r, hnone, -⟩ := exists_of_bind h
    cases hnone
  | cons c r =>
    dsimp only at h
    by_cases hc : c = 'T' ∨ c = 't' ∨ c = ' '
    · rw [if_pos hc] at h
      obtain ⟨r, -, h⟩ := exists_of_bind h
      obtain ⟨⟨hour, r⟩, -, h⟩ := exists_of_bind h
      obtain ⟨r, -, h⟩ := exists_of_bind h
      obtain ⟨⟨minute, r⟩, -, h⟩ := exists_of_bind h
      obtain ⟨r, -, h⟩ := exists_of_bind h
      obtain ⟨⟨second, r⟩, -, h⟩ := exists_of_bind h
      obtain ⟨⟨nanos, r⟩, hfraction, h⟩ := exists_of_bind h
      obtain ⟨⟨offset, r⟩, -, h⟩ := exists_of_bind h
      obtain ⟨-, -, h⟩ := exists_of_bind h
      obtain ⟨-, -, h⟩ := exists_of_bind h
      obtain ⟨-, -, h⟩ := exists_of_bind h
      cases h
      exact hnanos (fraction_lt hfraction)
    · rw [if_neg hc] at h
      obtain ⟨r, hnone, -⟩ := exists_of_bind h
      cases hnone

end TermSync.Time.Timestamp
