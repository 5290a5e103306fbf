import TermSync.Text.Utf8

/-!
# Cutting byte sequences

A byte sequence may be cut before the bytes of a character that is not complete, and decoded in two
parts: whatever comes after, no ill-formed part extends over the cut. Where nothing is held back,
no character is open; where something is, it begins with a first byte, which no open character can
take.

Main statement: `decodeLossy_cut`.
-/

namespace TermSync.Text.Utf8

/-! ## Single bytes -/

theorem forall_byte {P : UInt8 → Prop} (h : ∀ n < 256, P (UInt8.ofNat n)) (b : UInt8) :
    P b := by
  have hb := h b.toNat b.toNat_lt
  rwa [UInt8.ofNat_toNat] at hb

theorem isContinuation_iff (b : UInt8) :
    isContinuation b = true ↔ 0x80 ≤ b ∧ b ≤ 0xBF := by
  revert b
  exact forall_byte (by decide +kernel)

/-- The character that a byte opens. -/
def Lead.opened? : Lead → Option Partial
  | .opens p => some p
  | _ => none

/-- A byte that opens a character announces as many bytes as are due, and itself. -/
theorem announced_of_opened (b : UInt8) :
    ∀ p ∈ (lead b).opened?, isContinuation b = false ∧ announced b = 1 + p.due ∧ 0 < p.due ∧
      0x80 ≤ p.low ∧ p.high ≤ 0xBF := by
  revert b
  exact forall_byte (by decide +kernel)

/-! ## Open characters -/

/-- A byte sequence ends with the first bytes of a character: it has been opened, and some of the
bytes that it announced are still due. -/
structure Opens (p : Partial) (bs : Bytes) : Prop where
  due : 0 < p.due
  low : 0x80 ≤ p.low
  high : p.high ≤ 0xBF
  tail : ∃ before b cs, bs = before ++ b :: cs ∧ isContinuation b = false ∧
    (∀ c ∈ cs, isContinuation c = true) ∧ announced b = 1 + cs.length + p.due

/-- Only a continuation byte continues an open character. -/
theorem Opens.isContinuation {p : Partial} {bs : Bytes} (h : Opens p bs) {b : UInt8}
    (hb : p.low ≤ b ∧ b ≤ p.high) : isContinuation b = true :=
  (isContinuation_iff b).mpr ⟨UInt8.le_trans h.low hb.1, UInt8.le_trans hb.2 h.high⟩

private theorem opens_start {b : UInt8} {p : Partial} (h : (start b).2 = some p) (bs : Bytes) :
    Opens p (bs ++ [b]) := by
  have hp : p ∈ (lead b).opened? := by
    unfold start at h
    split at h <;> simp_all [Lead.opened?]
  obtain ⟨hc, ha, hd, hl, hh⟩ := announced_of_opened b p hp
  exact ⟨hd, hl, hh, bs, b, [], rfl, hc, by simp, by simpa using ha⟩

private theorem opens_step {q : Option Partial} {bs : Bytes} (hq : ∀ p, q = some p → Opens p bs)
    {b : UInt8} {p : Partial} (h : (step q b).2 = some p) : Opens p (bs ++ [b]) := by
  cases q with
  | none => exact opens_start h bs
  | some r =>
    obtain ⟨hd, hl, hh, before, l, cs, rfl, hb, hcs, ha⟩ := hq r rfl
    have hr := hq r rfl
    by_cases hin : r.low ≤ b ∧ b ≤ r.high
    · by_cases hlast : r.due ≤ 1
      · simp [step, hin, hlast] at h
      · simp only [step, if_pos hin, if_neg hlast, Option.some.injEq] at h
        subst h
        refine ⟨?_, UInt8.le_refl _, UInt8.le_refl _, before, l, cs ++ [b], by simp, hb, ?_, ?_⟩
        · simp only
          omega
        · intro c hc
          rcases List.mem_append.mp hc with hc | hc
          · exact hcs c hc
          · rw [List.mem_singleton.mp hc]
            exact hr.isContinuation hin
        · simp only [List.length_append, List.length_singleton]
          omega
    · simp only [step, if_neg hin] at h
      exact opens_start h _

private theorem opens_after {q : Option Partial} {pre : Bytes} (hq : ∀ p, q = some p → Opens p pre)
    (bs : Bytes) {p : Partial} (h : after q bs = some p) : Opens p (pre ++ bs) := by
  induction bs generalizing q pre with
  | nil => simpa using hq p h
  | cons b bs ih =>
    have hi : Opens p (pre ++ [b] ++ bs) := ih (fun r hr => opens_step hq hr) h
    rwa [List.append_assoc] at hi

/-- A character that is open after a byte sequence was opened in it. -/
theorem opens_of_after {bs : Bytes} {p : Partial} (h : after none bs = some p) : Opens p bs := by
  have hstart : ∀ r, (none : Option Partial) = some r → Opens r [] := fun r hr => by cases hr
  exact opens_after hstart bs h

/-! ## What is held back -/

theorem unfinishedFrom_append (back : Nat) {cs : Bytes}
    (hc : ∀ c ∈ cs, isContinuation c = true) (bs : Bytes) :
    unfinishedFrom back (cs ++ bs) = unfinishedFrom (back + cs.length) bs := by
  induction cs generalizing back with
  | nil => rfl
  | cons c cs ih =>
    rw [List.cons_append, unfinishedFrom, if_pos (hc c List.mem_cons_self),
      ih (back + 1) fun d hd => hc d (List.mem_cons_of_mem c hd), List.length_cons]
    congr 1
    omega

theorem announced_le (b : UInt8) : announced b ≤ 4 := by
  unfold announced
  split
  · omega
  · split
    · omega
    · split <;> omega

/-- If the last bytes are a first byte and continuation bytes, they are held back exactly if more
than these were announced. -/
theorem unfinished_of_first {b : UInt8} (hb : isContinuation b = false) {cs : Bytes}
    (hcs : ∀ c ∈ cs, isContinuation c = true) (hl : cs.length ≤ 2) (before : Bytes) :
    unfinished (before ++ b :: cs) = if 1 + cs.length < announced b then 1 + cs.length else 0 := by
  -- The first byte is among the last three, with only continuation bytes after it.
  obtain ⟨earlier, he⟩ :
      ∃ earlier, (before ++ b :: cs).reverse.take 3 = cs.reverse ++ b :: earlier := by
    refine ⟨before.reverse.take (2 - cs.length), ?_⟩
    have hlen : 3 - cs.reverse.length = 2 - cs.length + 1 := by
      rw [List.length_reverse]
      omega
    rw [List.reverse_append, List.reverse_cons, List.append_assoc, List.take_append,
      List.take_of_length_le (by rw [List.length_reverse]; omega), hlen]
    rfl
  rw [unfinished, he, unfinishedFrom_append 1 (by simpa using hcs), unfinishedFrom, hb,
    if_neg (by decide), List.length_reverse]

/-- Where nothing is held back no character is open. -/
theorem after_of_unfinished {bs : Bytes} (h : unfinished bs = 0) : after none bs = none := by
  cases ha : after none bs with
  | none => rfl
  | some p =>
    obtain ⟨hd, -, -, before, b, cs, hbs, hb, hcs, hann⟩ := opens_of_after ha
    have hle := announced_le b
    rw [hbs, unfinished_of_first hb hcs (by omega), if_pos (by omega)] at h
    omega

/-- What is held back begins with a byte that continues no character. -/
theorem exists_of_unfinishedFrom {back : Nat} {bs : Bytes} (h : unfinishedFrom back bs ≠ 0) :
    ∃ cs b earlier, bs = cs ++ b :: earlier ∧ isContinuation b = false ∧
      unfinishedFrom back bs = back + cs.length := by
  induction bs generalizing back with
  | nil => exact absurd rfl h
  | cons b bs ih =>
    rw [unfinishedFrom] at h ⊢
    cases hb : isContinuation b with
    | true =>
      rw [hb, if_pos rfl] at h
      obtain ⟨cs, d, earlier, rfl, hd, he⟩ := ih h
      refine ⟨b :: cs, d, earlier, rfl, hd, ?_⟩
      rw [if_pos rfl, he, List.length_cons]
      omega
    | false =>
      rw [hb, if_neg (by decide)] at h
      split at h
      · next hlt =>
        refine ⟨[], b, bs, rfl, hb, ?_⟩
        rw [if_neg (by decide), if_pos hlt]
        rfl
      · exact absurd rfl h

/-- A byte sequence is what may be decoded now and what is held back. -/
theorem drop_unfinished {bs : Bytes} (h : unfinished bs ≠ 0) :
    ∃ b cs, bs.drop (bs.length - unfinished bs) = b :: cs ∧ isContinuation b = false := by
  obtain ⟨cs, b, earlier, hs, hb, hk⟩ := exists_of_unfinishedFrom h
  obtain ⟨before, hbs⟩ : ∃ before, bs = before ++ b :: cs.reverse := by
    have hr := List.take_append_drop 3 bs.reverse
    rw [hs] at hr
    refine ⟨(earlier ++ bs.reverse.drop 3).reverse, ?_⟩
    simpa using (congrArg List.reverse hr).symm
  have hlen : bs.length - unfinished bs = before.length := by
    have hl := congrArg List.length hbs
    rw [List.length_append, List.length_cons, List.length_reverse] at hl
    rw [unfinished, hk, hl]
    omega
  refine ⟨b, cs.reverse, ?_, hb⟩
  rw [hlen, hbs]
  exact List.drop_left

/-! ## The cut -/

/-- A byte that continues no character closes an open one, as an ill-formed part, and is read as if
none had been open. -/
theorem pieces_of_not_isContinuation {p : Partial} {bs : Bytes} (hp : Opens p bs) {b : UInt8}
    (hb : isContinuation b = false) (cs : Bytes) :
    pieces (some p) (b :: cs) = none :: pieces none (b :: cs) := by
  have hout : ¬(p.low ≤ b ∧ b ≤ p.high) := by
    intro hin
    rw [hp.isContinuation hin] at hb
    cases hb
  rw [pieces, step, if_neg hout, pieces, step]
  rfl

/-- Where no character is open a byte sequence may be cut, whatever comes after it. -/
theorem decodeLossy_append_of_after {bs : Bytes} (h : after none bs = none) (more : Bytes) :
    decodeLossy (bs ++ more) = decodeLossy bs ++ decodeLossy more := by
  have hnow := pieces_append none bs []
  rw [List.append_nil] at hnow
  rw [decodeLossy, decodeLossy, decodeLossy, pieces_append, hnow, ← List.map_append, h,
    List.append_assoc]
  rfl

/-- A byte sequence may be cut before a byte that continues no character. -/
theorem decodeLossy_append_cons (bs : Bytes) {b : UInt8} (hb : isContinuation b = false)
    (cs : Bytes) : decodeLossy (bs ++ b :: cs) = decodeLossy bs ++ decodeLossy (b :: cs) := by
  cases hq : after none bs with
  | none => exact decodeLossy_append_of_after hq (b :: cs)
  | some p =>
    have hnow := pieces_append none bs []
    rw [List.append_nil] at hnow
    rw [decodeLossy, decodeLossy, decodeLossy, pieces_append, hnow, ← List.map_append, hq,
      pieces_of_not_isContinuation (opens_of_after hq) hb, List.append_assoc]
    rfl

/-- A byte sequence may be cut before what is held back, whatever comes after it. -/
theorem decodeLossy_cut (bs more : Bytes) :
    decodeLossy (bs ++ more) =
      decodeLossy (bs.take (bs.length - unfinished bs)) ++
        decodeLossy (bs.drop (bs.length - unfinished bs) ++ more) := by
  by_cases hk : unfinished bs = 0
  · rw [hk, Nat.sub_zero, List.take_length, List.drop_length, List.nil_append]
    exact decodeLossy_append_of_after (after_of_unfinished hk) more
  · obtain ⟨b, cs, hd, hb⟩ := drop_unfinished hk
    rw [hd, List.cons_append, ← decodeLossy_append_cons _ hb, ← List.cons_append, ← hd,
      ← List.append_assoc, List.take_append_drop]

end TermSync.Text.Utf8
