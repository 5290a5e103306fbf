import TermSync.Json.Reader
import TermSync.Json.Writer

/-!
# Strings and integers, written and read

What is written for a string is read as that string, whatever its characters, and what is written
for an integer of at most 64 bits is read as that integer. Both hold in front of any text that does
not go on with the token.

Main statements: `readText_quote`, `readNumeral_writeInteger`, `toNumber?_numeralOf`.
-/

namespace TermSync.Json

/-! ## Strings -/

/-- What the written form of a character reads as: a control character without a short escape is
named by its number. -/
def pieceOf (c : Char) : Piece :=
  if c.toNat < 0x20 ∧ c ∉ ['\x08', '\x0c', '\n', '\r', '\t'] then .unit c.toNat else .char c

private theorem hexDigit?_hexDigit : ∀ n < 16, hexDigit? (hexDigit n) = some n := by decide

private theorem readPieces_unit (acc : List Piece) {n : Nat} (hn : n < 0x20) (rest : List Char) :
    readPieces acc ('\\' :: 'u' :: '0' :: '0' :: hexDigit (n / 16) :: hexDigit (n % 16) :: rest) =
      readPieces (.unit n :: acc) rest := by
  have hzero : hexDigit? '0' = some 0 := rfl
  have hhigh := hexDigit?_hexDigit (n / 16) (by omega)
  have hlow := hexDigit?_hexDigit (n % 16) (by omega)
  have hvalue : ((0 * 16 + 0) * 16 + n / 16) * 16 + n % 16 = n := by omega
  simp only [readPieces, hzero, hhigh, hlow, hvalue]

private theorem readPieces_plain (acc : List Piece) {c : Char} (hquote : c ≠ '"')
    (hslash : c ≠ '\\') (hc : ¬c.toNat < 0x20) (rest : List Char) :
    readPieces acc (c :: rest) = readPieces (.char c :: acc) rest := by
  rw [readPieces.eq_def]
  split
  · next heq => exact absurd (List.cons.inj heq).1 hquote
  · next heq => exact absurd (List.cons.inj heq).1 hslash
  · next heq => exact absurd (List.cons.inj heq).1 hslash
  · next heq =>
    obtain ⟨rfl, rfl⟩ := List.cons.inj heq
    rw [if_neg (not_or.mpr ⟨hc, hslash⟩)]
  · next heq => cases heq

/-- Each character of a string is read from its written form. -/
theorem readPieces_escape (acc : List Piece) (c : Char) (rest : List Char) :
    readPieces acc (escape c ++ rest) = readPieces (pieceOf c :: acc) rest := by
  unfold escape
  split
  · next h => subst h; rfl
  split
  · next h => subst h; rfl
  split
  · next h => subst h; rfl
  split
  · next h => subst h; rfl
  split
  · next h => subst h; rfl
  split
  · next h => subst h; rfl
  split
  · next h => subst h; rfl
  split
  · next hc =>
    have hpiece : pieceOf c = .unit c.toNat := by simp_all [pieceOf]
    rw [hpiece]
    exact readPieces_unit acc hc rest
  · next hquote hslash _ _ _ _ _ hc =>
    have hpiece : pieceOf c = .char c := by simp [pieceOf, hc]
    rw [hpiece]
    exact readPieces_plain acc hquote hslash hc rest

private theorem readPieces_escapes (acc : List Piece) (cs rest : List Char) :
    readPieces acc (cs.flatMap escape ++ '"' :: rest) =
      some (acc.reverse ++ cs.map pieceOf, rest) := by
  induction cs generalizing acc with
  | nil => simp [readPieces]
  | cons c cs ih =>
    rw [List.flatMap_cons, List.append_assoc, readPieces_escape, ih]
    simp

/-- The parts of a string's written form make up its characters. -/
private theorem joinPieces_map (acc cs : List Char) :
    joinPieces acc (cs.map pieceOf) = some (acc.reverse ++ cs) := by
  induction cs generalizing acc with
  | nil => simp [joinPieces]
  | cons c cs ih =>
    have hstep : joinPieces acc (pieceOf c :: cs.map pieceOf) =
        joinPieces (c :: acc) (cs.map pieceOf) := by
      rw [pieceOf]
      split
      · next hc =>
        have hhigh : isHighSurrogate c.toNat = false := by simp [isHighSurrogate]; omega
        have hlow : isLowSurrogate c.toNat = false := by simp [isLowSurrogate]; omega
        rw [joinPieces.eq_def]
        dsimp only
        rw [hhigh, hlow, Char.ofNat_toNat]
        rfl
      · rfl
    rw [List.map_cons, hstep, ih]
    simp

/-- What is written for a string is read as that string. -/
theorem readText_quote (s : String) (rest : List Char) :
    readText (s.toList.flatMap escape ++ '"' :: rest) = some (some s, rest) := by
  simp [readText, readPieces_escapes, joinPieces_map]

/-! ## Digits -/

/-- The digits of a natural, most significant first. -/
def digitsOf (n : Nat) : List Nat := (Nat.toDigits 10 n).map fun c => c.toNat - '0'.toNat

private theorem digitChar_value : ∀ d < 10, (Nat.digitChar d).toNat - '0'.toNat = d := by decide

theorem digitsOf_of_lt {n : Nat} (h : n < 10) : digitsOf n = [n] := by
  rw [digitsOf, Nat.toDigits_of_lt_base h, List.map_singleton, digitChar_value n h]

theorem digitsOf_of_le {n : Nat} (h : 10 ≤ n) : digitsOf n = digitsOf (n / 10) ++ [n % 10] := by
  have hlast : n % 10 < 10 := Nat.mod_lt n (by decide)
  rw [digitsOf, Nat.toDigits_of_base_le (by decide) h, List.map_append, List.map_singleton,
    digitChar_value _ hlast]
  rfl

theorem digitsOf_ne_nil (n : Nat) : digitsOf n ≠ [] := by
  rcases Nat.lt_or_ge n 10 with h | h
  · simp [digitsOf_of_lt h]
  · simp [digitsOf_of_le h]

/-- Only zero is written with a leading zero. -/
theorem head?_digitsOf {n : Nat} (h : n ≠ 0) : (digitsOf n).head? ≠ some 0 := by
  induction n using Nat.strongRecOn with
  | _ n ih =>
    rcases Nat.lt_or_ge n 10 with hn | hn
    · simpa [digitsOf_of_lt hn] using h
    · have hfirst := ih (n / 10) (by omega) (by omega)
      obtain ⟨d, ds, hds⟩ := List.exists_cons_of_ne_nil (digitsOf_ne_nil (n / 10))
      rw [digitsOf_of_le hn, hds]
      rw [hds] at hfirst
      exact hfirst

private theorem accumulate_append {n v : Nat} {ds : List Nat} (h : accumulate n ds = (v, []))
    (d : Nat) : accumulate n (ds ++ [d]) = accumulate v [d] := by
  induction ds generalizing n with
  | nil =>
    obtain ⟨rfl, -⟩ := Prod.mk.inj h
    rfl
  | cons e ds ih =>
    rw [List.cons_append, accumulate]
    rw [accumulate] at h
    split at h
    · cases (Prod.mk.inj h).2
    · next hfits =>
      rw [if_neg hfits]
      exact ih h

/-- The digits of a number of at most 64 bits are taken into that number. -/
theorem accumulate_digitsOf {n : Nat} (h : n ≤ maxUnsigned) :
    accumulate 0 (digitsOf n) = (n, []) := by
  induction n using Nat.strongRecOn with
  | _ n ih =>
    rcases Nat.lt_or_ge n 10 with hn | hn
    · rw [digitsOf_of_lt hn, accumulate, if_neg (by omega), accumulate]
      simp
    · rw [digitsOf_of_le hn, accumulate_append (ih (n / 10) (by omega) (by omega)), accumulate,
        if_neg (by omega), accumulate]
      congr 1
      omega

/-! ## Integers -/

/-- Whether a text does not go on with the number in front of it. -/
def EndsNumber (rest : List Char) : Prop :=
  ∀ c ∈ rest.head?, digit? c = none ∧ c ≠ '.' ∧ c ≠ 'e' ∧ c ≠ 'E'

theorem EndsNumber.cons (c : Char) (cs : List Char)
    (h : digit? c = none ∧ c ≠ '.' ∧ c ≠ 'e' ∧ c ≠ 'E') : EndsNumber (c :: cs) := by
  rintro d hd
  obtain rfl : c = d := by simpa using hd
  exact h

/-- The numeral of an integer. -/
def numeralOf (i : Int) : Numeral := ⟨i < 0, digitsOf i.natAbs, [], none⟩

private theorem digit?_of_isDigit {c : Char} (h : c.isDigit = true) :
    digit? c = some (c.toNat - '0'.toNat) := by
  have hrange : 48 ≤ c.val ∧ c.val ≤ 57 := by simpa [Char.isDigit] using h
  exact if_pos hrange

private theorem spanDigits_append {cs rest : List Char} (hcs : ∀ c ∈ cs, c.isDigit = true)
    (hrest : EndsNumber rest) :
    spanDigits (cs ++ rest) = (cs.map fun c => c.toNat - '0'.toNat, rest) := by
  induction cs with
  | nil =>
    cases rest with
    | nil => rfl
    | cons c rest => simp [spanDigits, (hrest c rfl).1]
  | cons c cs ih =>
    have htail := ih fun d hd => hcs d (List.mem_cons_of_mem c hd)
    simp [spanDigits, digit?_of_isDigit (hcs c List.mem_cons_self), htail]

private theorem spanDigits_toDigits (n : Nat) {rest : List Char} (hrest : EndsNumber rest) :
    spanDigits (Nat.toDigits 10 n ++ rest) = (digitsOf n, rest) :=
  spanDigits_append (fun _ hc => Nat.isDigit_of_mem_toDigits (by decide) (by decide) hc) hrest

private theorem readFraction_of_ends {rest : List Char} (h : EndsNumber rest) :
    readFraction rest = some ([], rest) := by
  unfold readFraction
  split
  · exact absurd rfl (h '.' rfl).2.1
  · rfl

private theorem readExponent_of_ends {rest : List Char} (h : EndsNumber rest) :
    readExponent rest = some (none, rest) := by
  cases rest with
  | nil => rfl
  | cons c rest =>
    obtain ⟨-, -, he, hE⟩ := h c rfl
    simp [readExponent, he, hE]

private theorem guard_of_true {p : Prop} [Decidable p] (h : p) :
    (guard p : Option Unit) = some () := if_pos h

/-- No number is written with a leading zero, unless it is zero. -/
private theorem lone_of_leading_zero (n : Nat) :
    (digitsOf n).head? ≠ some 0 ∨ (digitsOf n).length = 1 := by
  by_cases h : n = 0
  · subst h
    exact .inr rfl
  · exact .inl (head?_digitsOf h)

/-- A natural is written with a digit in front. -/
theorem toDigits_eq_cons (n : Nat) :
    ∃ c cs, Nat.toDigits 10 n = c :: cs ∧ c.isDigit = true := by
  obtain ⟨c, cs, hcs⟩ := List.exists_cons_of_ne_nil (Nat.toDigits_ne_nil (n := n) (b := 10))
  exact ⟨c, cs, hcs,
    Nat.isDigit_of_mem_toDigits (by decide) (by decide) (hcs ▸ List.mem_cons_self)⟩

/-- What is written for an integer is read as its numeral. -/
theorem readNumeral_writeInteger (i : Int) {rest : List Char} (h : EndsNumber rest) :
    readNumeral (writeInteger i ++ rest) = some (numeralOf i, rest) := by
  have hspan := spanDigits_toDigits i.natAbs h
  have hnil := guard_of_true (digitsOf_ne_nil i.natAbs)
  have hzero := guard_of_true (lone_of_leading_zero i.natAbs)
  rw [readNumeral.eq_def]
  split
  next negative cs hsign =>
  have hparts : negative = decide (i < 0) ∧ cs = Nat.toDigits 10 i.natAbs ++ rest := by
    by_cases hi : i < 0
    · rw [writeInteger, if_pos hi, List.cons_append] at hsign
      obtain ⟨rfl, rfl⟩ := Prod.mk.inj hsign
      exact ⟨(decide_eq_true hi).symm, rfl⟩
    · obtain ⟨c, ds, hds, hc⟩ := toDigits_eq_cons i.natAbs
      rw [writeInteger, if_neg hi, hds, List.cons_append] at hsign
      rw [hds]
      split at hsign
      · next heq =>
        obtain ⟨rfl, -⟩ := List.cons.inj heq
        cases hc
      · obtain ⟨rfl, rfl⟩ := Prod.mk.inj hsign
        exact ⟨(decide_eq_false hi).symm, rfl⟩
  rw [hparts.1, hparts.2, hspan]
  dsimp only
  rw [hnil, hzero, readFraction_of_ends h]
  simp only [Option.bind_eq_bind, Option.bind_some, readExponent_of_ends h, Option.pure_def,
    numeralOf]

/-- Whether an integer fits 64 bits, with a sign or without. -/
def FitsWord (i : Int) : Prop :=
  if i < 0 then i.natAbs ≤ Nat.pow 2 63 else i.natAbs ≤ maxUnsigned

/-- The numeral of an integer of at most 64 bits stands for it. -/
theorem toNumber?_numeralOf {i : Int} (h : FitsWord i) :
    (numeralOf i).toNumber? = some (.integer i) := by
  have hword : i.natAbs ≤ maxUnsigned := by
    unfold FitsWord at h
    split at h
    · exact Nat.le_trans h (by decide)
    · exact h
  unfold FitsWord at h
  rw [Numeral.toNumber?]
  simp only [numeralOf, accumulate_digitsOf hword, decide_eq_true_eq]
  by_cases hi : i < 0
  · rw [if_pos hi] at h
    have hfits : ¬(i.natAbs = 0 ∨ Nat.pow 2 63 < i.natAbs) := by omega
    have hvalue : -(i.natAbs : Int) = i := by omega
    rw [if_pos hi, if_neg hfits, hvalue]
  · have hvalue : (i.natAbs : Int) = i := by omega
    rw [if_neg hi, hvalue]

end TermSync.Json
