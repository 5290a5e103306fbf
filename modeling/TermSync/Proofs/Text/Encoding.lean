import TermSync.Proofs.Text.Utf8

/-!
# Encoded text

The UTF-8 form of a character is a byte of its own, or a byte that opens it and those that complete
it. So encoded text is read back character by character, and whatever follows it is read as if it
stood alone. Of encoded text nothing is held back; of what follows, no more than what follows, and
all of it if these are the first bytes of another character.

Main statements: `pieces_encode`, `decodeLossy_append_encode`, `Ended.unfinished_le` and
`unfinished_of_begun`; for any bytes `lookBack?_eq`.
-/

namespace TermSync.Text.Utf8

/-! ## The bytes that complete a character -/

/-- The bytes that are due of an open character are there, and make it the one with a number. -/
inductive Completes : Partial → Bytes → Nat → Prop
  | last {p : Partial} {b : UInt8} {n : Nat} (hb : p.low ≤ b ∧ b ≤ p.high) (hd : p.due = 1)
      (hn : p.bits * 64 + b.toNat % 64 = n) : Completes p [b] n
  | more {p : Partial} {b : UInt8} {bs : Bytes} {n : Nat} (hb : p.low ≤ b ∧ b ≤ p.high)
      (hd : 1 < p.due) (h : Completes ⟨p.bits * 64 + b.toNat % 64, p.due - 1, 0x80, 0xBF⟩ bs n) :
      Completes p (b :: bs) n

namespace Completes

variable {p : Partial} {bs : Bytes} {n : Nat}

/-- They are read as the character, and what follows is read as if it stood alone. -/
theorem pieces_append (h : Completes p bs n) (more : Bytes) :
    pieces (some p) (bs ++ more) = some (Char.ofNat n) :: pieces none more := by
  induction h with
  | last hb hd hn =>
    rw [List.singleton_append, pieces, step, if_pos hb, if_pos (Nat.le_of_eq hd), hn]
    rfl
  | more hb hd h ih =>
    rw [List.cons_append, pieces, step, if_pos hb, if_neg (Nat.not_le.mpr hd)]
    exact ih

theorem length_eq (h : Completes p bs n) : bs.length = p.due := by
  induction h with
  | last hb hd hn => exact hd.symm
  | more hb hd h ih =>
    rw [List.length_cons, ih]
    exact Nat.sub_add_cancel (Nat.le_of_lt hd)

theorem isContinuation (h : Completes p bs n) (hl : 0x80 ≤ p.low) (hh : p.high ≤ 0xBF) :
    ∀ b ∈ bs, isContinuation b = true := by
  have within {p : Partial} {b : UInt8} (hb : p.low ≤ b ∧ b ≤ p.high) (hl : 0x80 ≤ p.low)
      (hh : p.high ≤ 0xBF) : Utf8.isContinuation b = true :=
    (isContinuation_iff b).mpr ⟨UInt8.le_trans hl hb.1, UInt8.le_trans hb.2 hh⟩
  induction h with
  | last hb hd hn => exact List.forall_mem_singleton.mpr (within hb hl hh)
  | more hb hd h ih =>
    exact List.forall_mem_cons.mpr ⟨within hb hl hh, ih (UInt8.le_refl _) (UInt8.le_refl _)⟩

end Completes

/-- The continuation byte that carries the last six bits of a number. -/
def tail (n : Nat) : UInt8 := .ofNat (n % 64 + 128)

private theorem toNat_tail (n : Nat) : (tail n).toNat = n % 64 + 128 := by
  rw [tail, UInt8.toNat_ofNat']
  omega

private theorem tail_mem {n : Nat} {low high : UInt8} (hl : low.toNat ≤ n % 64 + 128)
    (hh : n % 64 + 128 ≤ high.toNat) : low ≤ tail n ∧ tail n ≤ high := by
  rw [UInt8.le_iff_toNat_le, UInt8.le_iff_toNat_le, toNat_tail]
  exact ⟨hl, hh⟩

private theorem bits_tail (n : Nat) : n / 64 * 64 + (tail n).toNat % 64 = n := by
  rw [toNat_tail]
  omega

private theorem completes_last (n : Nat) {low high : UInt8} (hl : low.toNat ≤ n % 64 + 128)
    (hh : n % 64 + 128 ≤ high.toNat) : Completes ⟨n / 64, 1, low, high⟩ [tail n] n :=
  .last (tail_mem hl hh) rfl (bits_tail n)

private theorem completes_more {m n due : Nat} {low high : UInt8} {bs : Bytes}
    (hl : low.toNat ≤ m % 64 + 128) (hh : m % 64 + 128 ≤ high.toNat) (hd : 0 < due)
    (h : Completes ⟨m, due, 0x80, 0xBF⟩ bs n) :
    Completes ⟨m / 64, due + 1, low, high⟩ (tail m :: bs) n := by
  refine .more (tail_mem hl hh) (Nat.succ_lt_succ hd) ?_
  rw [bits_tail]
  exact h

/-- Any six bits may come last, and between the second byte of a character and its last one. -/
private theorem low_le (n : Nat) : (0x80 : UInt8).toNat ≤ n % 64 + 128 := Nat.le_add_left _ _

private theorem le_high (n : Nat) : n % 64 + 128 ≤ (0xBF : UInt8).toNat := by
  show n % 64 + 128 ≤ 191
  omega

/-! ## The bytes of a character -/

/-- The UTF-8 form of a character: a byte of its own, or one that opens it and those that complete
it. -/
inductive Form (c : Char) : Bytes → Prop
  | single {b : UInt8} (hb : lead b = .char c) : Form c [b]
  | several {b : UInt8} {p : Partial} {bs : Bytes} (hb : lead b = .opens p)
      (h : Completes p bs c.toNat) : Form c (b :: bs)

/-- What a first byte announces, by its number. -/
private theorem lead_eq (b : UInt8) :
    lead b =
      if b.toNat < 128 then .char (Char.ofNat b.toNat)
      else if b.toNat < 194 then .illFormed
      else if b.toNat < 224 then .opens ⟨b.toNat - 192, 1, 0x80, 0xBF⟩
      else if b.toNat < 240 then
        .opens ⟨b.toNat - 224, 2, if b.toNat - 224 = 0 then 0xA0 else 0x80,
          if b.toNat - 224 = 13 then 0x9F else 0xBF⟩
      else if b.toNat < 245 then
        .opens ⟨b.toNat - 240, 3, if b.toNat - 240 = 0 then 0x90 else 0x80,
          if b.toNat - 240 = 4 then 0x8F else 0xBF⟩
      else .illFormed := by
  revert b
  exact forall_byte (by decide +kernel)

private theorem lead_one {n : Nat} (h : n < 128) : lead (.ofNat n) = .char (Char.ofNat n) := by
  rw [lead_eq, UInt8.toNat_ofNat', Nat.mod_eq_of_lt (by omega), if_pos h]

private theorem lead_two {n m : Nat} (hm : m = n + 192) (h : 2 ≤ n ∧ n < 32) :
    lead (.ofNat m) = .opens ⟨n, 1, 0x80, 0xBF⟩ := by
  rw [lead_eq, UInt8.toNat_ofNat', Nat.mod_eq_of_lt (by omega), if_neg (by omega),
    if_neg (by omega), if_pos (by omega), hm, Nat.add_sub_cancel]

private theorem lead_three {n m : Nat} (hm : m = n + 224) (h : n < 16) :
    lead (.ofNat m) =
      .opens ⟨n, 2, if n = 0 then 0xA0 else 0x80, if n = 13 then 0x9F else 0xBF⟩ := by
  rw [lead_eq, UInt8.toNat_ofNat', Nat.mod_eq_of_lt (by omega), if_neg (by omega),
    if_neg (by omega), if_neg (by omega), if_pos (by omega), hm, Nat.add_sub_cancel]

private theorem lead_four {n m : Nat} (hm : m = n + 240) (h : n < 5) :
    lead (.ofNat m) =
      .opens ⟨n, 3, if n = 0 then 0x90 else 0x80, if n = 4 then 0x8F else 0xBF⟩ := by
  rw [lead_eq, UInt8.toNat_ofNat', Nat.mod_eq_of_lt (by omega), if_neg (by omega),
    if_neg (by omega), if_neg (by omega), if_neg (by omega), if_pos (by omega), hm,
    Nat.add_sub_cancel]

/-- The second of three bytes excludes overlong forms and surrogates. -/
private theorem second_of_three {v : Nat} (hlong : 2048 ≤ v) (hv : v < 55296 ∨ 57343 < v) :
    (if v / 64 / 64 = 0 then (0xA0 : UInt8) else 0x80).toNat ≤ v / 64 % 64 + 128 ∧
      v / 64 % 64 + 128 ≤ (if v / 64 / 64 = 13 then (0x9F : UInt8) else 0xBF).toNat := by
  constructor
  · split
    · show 160 ≤ v / 64 % 64 + 128
      omega
    · exact low_le _
  · split
    · show v / 64 % 64 + 128 ≤ 159
      omega
    · exact le_high _

/-- The second of four bytes excludes overlong forms and what lies beyond the last character. -/
private theorem second_of_four {v : Nat} (hlong : 65536 ≤ v) (hv : v < 1114112) :
    (if v / 64 / 64 / 64 = 0 then (0x90 : UInt8) else 0x80).toNat ≤ v / 64 / 64 % 64 + 128 ∧
      v / 64 / 64 % 64 + 128 ≤ (if v / 64 / 64 / 64 = 4 then (0x8F : UInt8) else 0xBF).toNat := by
  constructor
  · split
    · show 144 ≤ v / 64 / 64 % 64 + 128
      omega
    · exact low_le _
  · split
    · show v / 64 / 64 % 64 + 128 ≤ 143
      omega
    · exact le_high _

/-- The bytes that encode a character are its UTF-8 form. -/
theorem form_encodeChar (c : Char) : Form c (String.utf8EncodeChar c) := by
  have hvalid : c.toNat < 55296 ∨ 57343 < c.toNat ∧ c.toNat < 1114112 := c.valid
  have hc : Char.ofNat c.toNat = c := c.ofNat_toNat
  unfold String.utf8EncodeChar
  rw [show c.val.toNat = c.toNat from rfl]
  generalize hv : c.toNat = v at hvalid hc
  have hthree : v / 4096 = v / 64 / 64 := by omega
  have hfour : v / 262144 = v / 64 / 64 / 64 := by omega
  dsimp only
  split
  · exact .single (by rw [lead_one (by omega), hc])
  · split
    · refine .several (lead_two (n := v / 64) (by omega) (by omega)) ?_
      rw [hv]
      exact completes_last v (low_le v) (le_high v)
    · split
      · obtain ⟨hl, hh⟩ := second_of_three (v := v) (by omega) (by omega)
        refine .several (lead_three (n := v / 64 / 64) (by omega) (by omega)) ?_
        rw [hv]
        exact completes_more hl hh Nat.one_pos (completes_last v (low_le v) (le_high v))
      · obtain ⟨hl, hh⟩ := second_of_four (v := v) (by omega) (by omega)
        refine .several (lead_four (n := v / 64 / 64 / 64) (by omega) (by omega)) ?_
        rw [hv, hthree]
        exact completes_more hl hh Nat.two_pos
          (completes_more (low_le _) (le_high _) Nat.one_pos
            (completes_last v (low_le v) (le_high v)))

/-- The character that a byte is by itself. -/
def Lead.char? : Lead → Option Char
  | .char c => some c
  | _ => none

private theorem announced_of_char (b : UInt8) :
    (lead b).char?.isSome = true → isContinuation b = false ∧ announced b = 1 := by
  revert b
  exact forall_byte (by decide +kernel)

namespace Form

variable {c : Char} {bs : Bytes}

/-- A character begins with a byte that announces how many there are, and the others are
continuation bytes. -/
theorem eq_cons (h : Form c bs) :
    ∃ b cs, bs = b :: cs ∧ isContinuation b = false ∧ (∀ d ∈ cs, isContinuation d = true) ∧
      announced b = 1 + cs.length := by
  cases h with
  | @single b hb =>
    obtain ⟨hcont, hann⟩ := announced_of_char b (by rw [hb]; rfl)
    exact ⟨b, [], rfl, hcont, by simp, hann⟩
  | @several b p cs hb h =>
    obtain ⟨hc, ha, -, hl, hh⟩ := announced_of_opened b p (by rw [hb]; rfl)
    exact ⟨b, cs, rfl, hc, h.isContinuation hl hh, by rw [ha, h.length_eq]⟩

/-- A character is read back, and what follows it is read as if it stood alone. -/
theorem pieces_append (h : Form c bs) (more : Bytes) :
    pieces none (bs ++ more) = some c :: pieces none more := by
  cases h with
  | single hb =>
    rw [List.singleton_append, pieces, step, start, hb]
    rfl
  | several hb h =>
    rw [List.cons_append, pieces, step, start, hb]
    show pieces (some _) _ = _
    rw [h.pieces_append, c.ofNat_toNat]

end Form

/-! ## Encoded text -/

/-- Encoded text is read back, and what follows it is read as if it stood alone. -/
theorem pieces_encode (cs : List Char) (more : Bytes) :
    pieces none (encode cs ++ more) = cs.map some ++ pieces none more := by
  induction cs with
  | nil => rfl
  | cons c cs ih =>
    rw [encode, List.flatMap_cons, List.append_assoc, (form_encodeChar c).pieces_append,
      List.map_cons, List.cons_append]
    exact congrArg (some c :: ·) ih

theorem decodeLossy_encode_append (cs : List Char) (more : Bytes) :
    decodeLossy (encode cs ++ more) = cs ++ decodeLossy more := by
  rw [decodeLossy, pieces_encode, List.map_append, List.map_map]
  congr 1
  exact List.map_id cs

theorem decodeLossy_encode (cs : List Char) : decodeLossy (encode cs) = cs := by
  have h := decodeLossy_encode_append cs []
  rwa [List.append_nil, show decodeLossy [] = [] from rfl, List.append_nil] at h

/-- Encoded text is read as it is, whatever stands before it and follows it. -/
theorem decodeLossy_append_encode (before : Bytes) {cs : List Char} (h : cs ≠ []) (more : Bytes) :
    decodeLossy (before ++ encode cs ++ more) = decodeLossy before ++ cs ++ decodeLossy more := by
  obtain ⟨c, ds, rfl⟩ := List.exists_cons_of_ne_nil h
  obtain ⟨b, es, hc, hfirst, -, -⟩ := (form_encodeChar c).eq_cons
  have hcons : encode (c :: ds) ++ more = b :: (es ++ encode ds ++ more) := by
    rw [encode, List.flatMap_cons, hc]
    rfl
  rw [List.append_assoc, hcons, decodeLossy_append_cons before hfirst, ← hcons,
    decodeLossy_encode_append, List.append_assoc]

/-! ## What is held back of encoded text -/

/-- Some bytes are the first ones of a character, but not all of them; or there are none. -/
def Begun (bs : Bytes) : Prop := ∃ c more, more ≠ [] ∧ bs ++ more = String.utf8EncodeChar c

/-- Some bytes end with a character, all of it; or there are none. -/
def Ended (bs : Bytes) : Prop := bs = [] ∨ ∃ before c, bs = before ++ String.utf8EncodeChar c

theorem ended_append_encode (before : Bytes) {cs : List Char} (h : cs ≠ []) :
    Ended (before ++ encode cs) := by
  rcases List.eq_nil_or_concat cs with rfl | ⟨ds, c, rfl⟩
  · exact absurd rfl h
  · refine .inr ⟨before ++ encode ds, c, ?_⟩
    rw [List.concat_eq_append, encode_append, List.append_assoc]
    congr 2
    exact List.flatMap_singleton ..

theorem ended_encode (cs : List Char) : Ended (encode cs) := by
  by_cases h : cs = []
  · exact .inl (congrArg encode h)
  · exact ended_append_encode [] h

/-- A look back finds the first byte of the last character, which announces no more bytes than have
come. -/
private theorem Ended.unfinishedFrom_eq {bs : Bytes} (h : Ended bs) {back : Nat} (hb : 1 ≤ back)
    (k : Nat) : unfinishedFrom back (bs.reverse.take k) = 0 := by
  rcases h with rfl | ⟨before, c, rfl⟩
  · rw [List.reverse_nil, List.take_nil]
    rfl
  · obtain ⟨b, es, hc, hfirst, hes, hann⟩ := (form_encodeChar c).eq_cons
    have hrev : ∀ e ∈ es.reverse, isContinuation e = true := by simpa using hes
    have hr : (before ++ String.utf8EncodeChar c).reverse = es.reverse ++ b :: before.reverse := by
      rw [hc, List.reverse_append, List.reverse_cons, List.append_assoc]
      rfl
    rw [hr, List.take_append]
    by_cases hk : k ≤ es.reverse.length
    · rw [Nat.sub_eq_zero_of_le hk, List.take_zero,
        unfinishedFrom_append back fun e he => hrev e (List.mem_of_mem_take he)]
      rfl
    · obtain ⟨n, hn⟩ := Nat.exists_eq_add_of_lt (Nat.not_le.mp hk)
      rw [List.take_of_length_le (Nat.le_of_not_le hk), unfinishedFrom_append back hrev,
        show k - es.reverse.length = n + 1 by omega, List.take_succ_cons, unfinishedFrom, hfirst,
        if_neg (by decide), if_neg (by rw [hann, List.length_reverse]; omega)]

/-- A look back that finds nothing before some bytes holds back some of these, or none. -/
private theorem unfinishedFrom_le {back : Nat} (bs : Bytes) {more : Bytes}
    (h : unfinishedFrom (back + bs.length) more = 0) :
    unfinishedFrom back (bs ++ more) < back + bs.length ∨ unfinishedFrom back (bs ++ more) = 0 := by
  induction bs generalizing back with
  | nil => exact .inr h
  | cons b bs ih =>
    rw [List.cons_append, unfinishedFrom]
    rw [List.length_cons, Nat.add_comm bs.length, ← Nat.add_assoc] at h ⊢
    split
    · exact ih h
    · split
      · left
        omega
      · exact .inr rfl

/-- Of the last bytes before such an end nothing is held back, wherever they begin and whatever
follows them. -/
theorem Ended.unfinished_le {bs whole : Bytes} (hw : Ended whole) (h : bs <:+ whole)
    (more : Bytes) : unfinished (bs ++ more) ≤ more.length := by
  obtain ⟨before, rfl⟩ := h
  have htake (k : Nat) : bs.reverse.take k = (before ++ bs).reverse.take (min k bs.length) := by
    rw [List.reverse_append, ← List.length_reverse, List.take_append,
      Nat.sub_eq_zero_of_le (Nat.min_le_right _ _), List.take_zero, List.append_nil,
      List.take_eq_take_min]
  have hnone := hw.unfinishedFrom_eq (Nat.le_add_right 1 (more.reverse.take 3).length)
    (min (3 - more.reverse.length) bs.length)
  rw [← htake] at hnone
  have hle := unfinishedFrom_le (more.reverse.take 3) hnone
  rw [unfinished, List.reverse_append, List.take_append]
  simp only [List.length_take, List.length_reverse] at hle ⊢
  omega

/-- The first bytes of a character that is not complete are held back, all of them and no more. -/
theorem unfinished_of_begun (cs : List Char) {bs : Bytes} (h : Begun bs) :
    unfinished (encode cs ++ bs) = bs.length := by
  obtain ⟨c, more, hmore, hc⟩ := h
  cases bs with
  | nil => exact Nat.le_zero.mp ((ended_encode cs).unfinished_le (List.suffix_refl _) [])
  | cons b bs =>
    obtain ⟨first, es, hcons, hfirst, hes, hann⟩ := (form_encodeChar c).eq_cons
    rw [← hc, List.cons_append] at hcons
    obtain ⟨rfl, rfl⟩ := List.cons.inj hcons
    have hpos := List.length_pos_iff.mpr hmore
    have hle := announced_le b
    rw [List.length_append] at hann
    rw [unfinished_of_first hfirst (fun e he => hes e (List.mem_append_left _ he)) (by omega),
      if_pos (by omega), List.length_cons, Nat.add_comm]

/-- Bytes in which there is encoded text are read as what comes before its end, some more, and what
is held back of the last of them, wherever these begin. -/
theorem decodeLossy_held (before : Bytes) {cs : List Char} (hcs : cs ≠ []) (more : Bytes)
    {bs : Bytes} (h : bs <:+ before ++ encode cs ++ more) :
    ∃ now, decodeLossy (before ++ encode cs ++ more) =
      decodeLossy before ++ cs ++ now ++ decodeLossy (bs.drop (bs.length - unfinished bs)) := by
  rw [decodeLossy_append_encode before hcs]
  by_cases hk : unfinished bs = 0
  · rw [hk, Nat.sub_zero, List.drop_length, show decodeLossy [] = [] from rfl]
    exact ⟨decodeLossy more, (List.append_nil _).symm⟩
  · have hle : unfinished bs ≤ more.length := by
      obtain ⟨first, hbs⟩ := h
      rcases List.append_eq_append_iff.mp hbs with ⟨rest, hrest, rfl⟩ | ⟨rest, -, rfl⟩
      · exact (ended_append_encode before hcs).unfinished_le ⟨first, hrest.symm⟩ more
      · rw [List.length_append]
        exact Nat.le_trans (unfinished_le_length bs) (Nat.le_add_left _ _)
    have hheld : bs.drop (bs.length - unfinished bs) <:+ more := by
      have hlength := unfinished_le_length bs
      refine List.suffix_of_suffix_length_le ((List.drop_suffix _ bs).trans h)
        (List.suffix_append _ more) ?_
      rw [List.length_drop]
      omega
    obtain ⟨now, rfl⟩ := hheld
    obtain ⟨b, ds, hd, hb⟩ := drop_unfinished hk
    refine ⟨decodeLossy now, ?_⟩
    rw [hd, decodeLossy_append_cons now hb, List.append_assoc (decodeLossy before ++ cs)]

/-! ## Any bytes -/

/-- Look back over the last bytes by their positions, for at most `count` more. There is no answer
if a position lies outside of the bytes. -/
def lookBack? (bs : Bytes) (back : Nat) : Nat → Option Nat
  | 0 => some 0
  | count + 1 =>
    if back ≤ bs.length then
      match bs[bs.length - back]? with
      | none => none
      | some b =>
        if isContinuation b then lookBack? bs (back + 1) count
        else some (if back < announced b then back else 0)
    else none

private theorem lookBack?_reverse (bs : Bytes) (passed count : Nat)
    (h : passed + count ≤ bs.length) :
    lookBack? bs (passed + 1) count =
      some (unfinishedFrom (passed + 1) ((bs.reverse.drop passed).take count)) := by
  induction count generalizing passed with
  | zero => rfl
  | succ count ih =>
    have hpos : passed < bs.reverse.length := by
      rw [List.length_reverse]
      omega
    have hget : bs[bs.length - (passed + 1)]? = some bs.reverse[passed] := by
      rw [List.getElem_reverse, ← List.getElem?_eq_getElem]
      congr 1
      omega
    rw [lookBack?, if_pos (by omega), hget, List.drop_eq_getElem_cons hpos, List.take_succ_cons,
      unfinishedFrom]
    dsimp only
    split
    · exact ih (passed + 1) (by omega)
    · split <;> rfl

/-- Every position that is looked at lies within the bytes. -/
theorem lookBack?_eq (bs : Bytes) : lookBack? bs 1 (min bs.length 3) = some (unfinished bs) := by
  rw [lookBack?_reverse bs 0 (min bs.length 3) (by omega), List.drop_zero, unfinished]
  congr 2
  rcases Nat.le_total bs.length 3 with h | h
  · rw [Nat.min_eq_left h, List.take_of_length_le (Nat.le_of_eq bs.length_reverse),
      List.take_of_length_le (by rw [List.length_reverse]; exact h)]
  · rw [Nat.min_eq_right h]

/-- Some text comes of any bytes, and of a character that is still open. -/
private theorem pieces_ne_nil {q : Option Partial} {bs : Bytes} (h : q ≠ none ∨ bs ≠ []) :
    pieces q bs ≠ [] := by
  induction bs generalizing q with
  | nil =>
    cases q with
    | none => simp at h
    | some p => exact List.cons_ne_nil _ _
  | cons b bs ih =>
    -- A byte that is not reported opens a character, or leaves one open.
    have hstep : (step q b).1 ≠ [] ∨ (step q b).2 ≠ none := by
      cases q with
      | none =>
        rw [step, start]
        split <;> simp
      | some p =>
        rw [step]
        split
        · dsimp only
          split <;> simp
        · exact .inl (List.cons_ne_nil _ _)
    intro hnil
    rw [pieces] at hnil
    obtain ⟨hnow, hlater⟩ := List.append_eq_nil_iff.mp hnil
    exact hstep.elim (fun h => h hnow) fun h => ih (.inl h) hlater

theorem decodeLossy_ne_nil {bs : Bytes} (h : bs ≠ []) : decodeLossy bs ≠ [] :=
  mt List.map_eq_nil_iff.mp (pieces_ne_nil (.inr h))

end TermSync.Text.Utf8
