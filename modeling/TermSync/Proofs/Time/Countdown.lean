import TermSync.Time.Countdown

/-!
# What countdown texts say

The text of a countdown is read as hours, minutes and seconds; of whatever is left it says the whole
seconds. A text is read in one way only, and while nothing is known there is nothing to be read.

Main statements: `readsAs_countdownText` and `ReadsAs.unique`.
-/

namespace TermSync.Time

/-- The number that decimal digits make. -/
def number (digits : List Char) : Nat := Nat.ofDigitChars 10 digits 0

/-- A text is `HH:MM:SS`: two digits at least for the hours, and two for the minutes and for the
seconds, both of which are below sixty. -/
structure Face (text : String) (hours minutes seconds : List Char) : Prop where
  text : text.toList = hours ++ ':' :: (minutes ++ ':' :: seconds)
  digits : ∀ c ∈ hours ++ (minutes ++ seconds), c.isDigit = true
  hours : 2 ≤ hours.length
  minutes : minutes.length = 2 ∧ number minutes < 60
  seconds : seconds.length = 2 ∧ number seconds < 60

/-- A text is `HH:MM:SS`, and comes to so many seconds. -/
def ReadsAs (text : String) (value : Nat) : Prop :=
  ∃ hours minutes seconds, Face text hours minutes seconds ∧
    number hours * 3600 + number minutes * 60 + number seconds = value

/-! ## Numbers -/

private theorem toList_twoDigits (n : Nat) :
    (twoDigits n).toList = if n < 10 then '0' :: Nat.toDigits 10 n else Nat.toDigits 10 n := by
  unfold twoDigits
  split
  · rw [String.toList_append, Nat.toString_eq_ofList_toDigits]
    exact congrArg ('0' :: ·) String.toList_ofList
  · rw [Nat.toString_eq_ofList_toDigits, String.toList_ofList]

/-- A leading zero does not change the number. -/
private theorem number_twoDigits (n : Nat) : number (twoDigits n).toList = n := by
  rw [toList_twoDigits, number]
  split
  · rw [Nat.ofDigitChars_cons]
    exact Nat.ofDigitChars_ten_toDigits
  · exact Nat.ofDigitChars_ten_toDigits

private theorem isDigit_twoDigits {n : Nat} {c : Char} (h : c ∈ (twoDigits n).toList) :
    c.isDigit = true := by
  have hdigits : c ∈ Nat.toDigits 10 n → c.isDigit = true :=
    Nat.isDigit_of_mem_toDigits (by decide) (by decide)
  rw [toList_twoDigits] at h
  split at h
  · rcases List.mem_cons.mp h with rfl | h
    · rfl
    · exact hdigits h
  · exact hdigits h

private theorem two_le_length_twoDigits (n : Nat) : 2 ≤ (twoDigits n).toList.length := by
  have hpos : 0 < (Nat.toDigits 10 n).length := Nat.length_toDigits_pos
  have hone := Nat.length_toDigits_le_iff (b := 10) (n := n) (k := 1) (by decide) (by decide)
  rw [toList_twoDigits]
  split
  · rw [List.length_cons]
    omega
  · omega

private theorem length_twoDigits {n : Nat} (h : n < 60) : (twoDigits n).toList.length = 2 := by
  have hlow := two_le_length_twoDigits n
  have hone := Nat.length_toDigits_le_iff (b := 10) (n := n) (k := 1) (by decide) (by decide)
  have htwo := Nat.length_toDigits_le_iff (b := 10) (n := n) (k := 2) (by decide) (by decide)
  rw [toList_twoDigits] at hlow ⊢
  by_cases hn : n < 10
  · rw [if_pos hn, List.length_cons] at hlow ⊢
    omega
  · rw [if_neg hn] at hlow ⊢
    omega

/-! ## Texts -/

/-- What is left is shown as its whole seconds. -/
theorem readsAs_countdownText (left : Span) :
    ReadsAs (countdownText (some left)) (shownSeconds left) := by
  obtain ⟨hminutes, hseconds, hvalue⟩ := parts_lt (shownSeconds left)
  refine ⟨(twoDigits (clockParts (shownSeconds left)).1).toList,
    (twoDigits (clockParts (shownSeconds left)).2.1).toList,
    (twoDigits (clockParts (shownSeconds left)).2.2).toList,
    ⟨?_, ?_, two_le_length_twoDigits _, ⟨length_twoDigits hminutes, ?_⟩,
      length_twoDigits hseconds, ?_⟩, ?_⟩
  · simp [countdownText]
  · intro c hc
    rcases List.mem_append.mp hc with hc | hc
    · exact isDigit_twoDigits hc
    · exact (List.mem_append.mp hc).elim isDigit_twoDigits isDigit_twoDigits
  · rwa [number_twoDigits]
  · rwa [number_twoDigits]
  · rw [number_twoDigits, number_twoDigits, number_twoDigits, hvalue]

/-- The digits in front of a colon end before it. -/
private theorem digits_unique {ds es rest more : List Char} (hd : ∀ c ∈ ds, c.isDigit = true)
    (he : ∀ c ∈ es, c.isDigit = true) (h : ds ++ ':' :: rest = es ++ ':' :: more) :
    ds = es ∧ rest = more := by
  have htake := congrArg (List.takeWhile Char.isDigit) h
  rw [List.takeWhile_append_of_pos hd, List.takeWhile_append_of_pos he] at htake
  simp only [List.takeWhile_cons, show Char.isDigit ':' = false from rfl] at htake
  have hsame : ds = es := by simpa using htake
  subst hsame
  exact ⟨rfl, List.cons.inj (List.append_cancel_left h) |>.2⟩

/-- A text is read in one way only. -/
theorem ReadsAs.unique {text : String} {m n : Nat} (hm : ReadsAs text m) (hn : ReadsAs text n) :
    m = n := by
  obtain ⟨hours, minutes, seconds, hf, rfl⟩ := hm
  obtain ⟨hours', minutes', seconds', hf', rfl⟩ := hn
  have hsame := hf.text.symm.trans hf'.text
  obtain ⟨rfl, hrest⟩ := digits_unique (fun c hc => hf.digits c (List.mem_append_left _ hc))
    (fun c hc => hf'.digits c (List.mem_append_left _ hc)) hsame
  obtain ⟨rfl, rfl⟩ := digits_unique
    (fun c hc => hf.digits c (List.mem_append_right _ (List.mem_append_left _ hc)))
    (fun c hc => hf'.digits c (List.mem_append_right _ (List.mem_append_left _ hc))) hrest
  rfl

/-- There is nothing to be read while it is not known when the session ends. -/
theorem not_readsAs_unknownCountdown (n : Nat) : ¬ ReadsAs unknownCountdown n := by
  rintro ⟨hours, minutes, seconds, hf, -⟩
  cases hours with
  | nil => exact absurd hf.hours (by decide)
  | cons c hours =>
    have hc : '-' = c := (List.cons.inj hf.text).1
    have hdigit := hf.digits c (List.mem_append_left _ List.mem_cons_self)
    rw [← hc] at hdigit
    cases hdigit

end TermSync.Time
