import TermSync.Json.Reader
import TermSync.Proofs.Text.Encoding
import TermSync.Rest.Target

/-!
# Percent encoding

What is encoded stands for the bytes of the text: `bytes` reads a byte for each `%` with two digits
and for each character that is left as it is. So texts without a `%` of their own are told apart by
their encoded forms. And since no dot is ever encoded, a text whose encoded form means a place means
that place itself.

Main statements: `bytes_encode`, `encode_inj`, `isHere_encode` and `isAbove_encode`.
-/

namespace TermSync.Rest.Target

open Text (Bytes)

/-! ## Percent encoding -/

private theorem upperHex_digit : ∀ n < 16, upperHex n ≠ '%' ∧ upperHex n ≠ 'e' ∧
    isSlash (upperHex n) = false ∧ Json.hexDigit? (upperHex n) = some n := by decide

private theorem toNat_div_lt (b : UInt8) : b.toNat / 16 < 16 := by
  have hb := b.toNat_lt
  omega

private theorem toNat_mod_lt (b : UInt8) : b.toNat % 16 < 16 := Nat.mod_lt _ (by decide)

theorem encode_cons (reserved : Char → Bool) (c : Char) (cs : List Char) :
    encode reserved (c :: cs) = encodeChar reserved c ++ encode reserved cs :=
  List.flatMap_cons

theorem encodeChar_of_plain {reserved : Char → Bool} {c : Char} (h : reserved c = false) :
    encodeChar reserved c = [c] := by
  simp [encodeChar, h]

theorem encodeChar_of_reserved {reserved : Char → Bool} {c : Char} (h : reserved c = true) :
    encodeChar reserved c = (String.utf8EncodeChar c).flatMap encodeByte := by
  simp [encodeChar, h, Text.Utf8.encode]

/-- A reserved character becomes one byte at least. -/
private theorem utf8EncodeChar_eq_cons (c : Char) : ∃ b bs, String.utf8EncodeChar c = b :: bs := by
  obtain ⟨b, bs, h, -⟩ := (Text.Utf8.form_encodeChar c).eq_cons
  exact ⟨b, bs, h⟩

/-- Encoding makes no slash. -/
theorem isSlash_encode (reserved : Char → Bool) {cs : List Char}
    (h : ∀ c ∈ cs, isSlash c = false) : ∀ d ∈ encode reserved cs, isSlash d = false := by
  intro d hd
  obtain ⟨c, hc, hd⟩ := List.mem_flatMap.mp hd
  cases hr : reserved c with
  | false =>
    rw [encodeChar_of_plain hr, List.mem_singleton] at hd
    exact hd ▸ h c hc
  | true =>
    rw [encodeChar_of_reserved hr] at hd
    obtain ⟨b, -, hd⟩ := List.mem_flatMap.mp hd
    simp only [encodeByte, List.mem_cons, List.not_mem_nil, or_false] at hd
    rcases hd with rfl | rfl | rfl
    · rfl
    · exact (upperHex_digit _ (toNat_div_lt b)).2.2.1
    · exact (upperHex_digit _ (toNat_mod_lt b)).2.2.1

theorem encode_of_plain {reserved : Char → Bool} {cs : List Char}
    (h : ∀ c ∈ cs, reserved c = false) : encode reserved cs = cs := by
  induction cs with
  | nil => rfl
  | cons c cs ih =>
    obtain ⟨hc, hcs⟩ := List.forall_mem_cons.mp h
    rw [encode_cons, encodeChar_of_plain hc, ih hcs, List.singleton_append]

/-- The bytes that a percent-encoded text stands for. -/
def bytes : List Char → Bytes
  | '%' :: high :: low :: rest =>
    UInt8.ofNat ((Json.hexDigit? high).getD 0 * 16 + (Json.hexDigit? low).getD 0) :: bytes rest
  | c :: rest => UInt8.ofNat c.toNat :: bytes rest
  | [] => []

private theorem bytes_encodeByte (b : UInt8) (rest : List Char) :
    bytes (encodeByte b ++ rest) = b :: bytes rest := by
  obtain ⟨-, -, -, hhigh⟩ := upperHex_digit _ (toNat_div_lt b)
  obtain ⟨-, -, -, hlow⟩ := upperHex_digit _ (toNat_mod_lt b)
  have hb : b.toNat / 16 * 16 + b.toNat % 16 = b.toNat := by omega
  simp [encodeByte, bytes, hhigh, hlow, hb]

private theorem bytes_encodeBytes (bs : Bytes) (rest : List Char) :
    bytes (bs.flatMap encodeByte ++ rest) = bs ++ bytes rest := by
  induction bs with
  | nil => rfl
  | cons b bs ih =>
    rw [List.flatMap_cons, List.append_assoc, bytes_encodeByte, ih, List.cons_append]

private theorem bytes_cons {c : Char} (h : c ≠ '%') (rest : List Char) :
    bytes (c :: rest) = UInt8.ofNat c.toNat :: bytes rest := by
  rw [bytes.eq_def]
  split
  · next heq => exact absurd (List.cons.inj heq).1 h
  · next heq =>
    obtain ⟨rfl, rfl⟩ := List.cons.inj heq
    rfl
  · next heq => cases heq

/-- Whether only visible characters are left unencoded. -/
def Covers (reserved : Char → Bool) : Prop := ∀ c, isHidden c = true → reserved c = true

theorem covers_pathReserved : Covers pathReserved := fun c h => by simp [pathReserved, h]

theorem covers_queryReserved : Covers queryReserved := fun c h => by simp [queryReserved, h]

private theorem utf8EncodeChar_of_visible {c : Char} (h : isHidden c = false) :
    String.utf8EncodeChar c = [UInt8.ofNat c.toNat] := by
  simp only [isHidden, Bool.or_eq_false_iff, decide_eq_false_iff_not] at h
  have hc : c.utf8Size = 1 := by
    rw [Char.utf8Size_eq_one_iff, UInt32.le_iff_toNat_le]
    show c.toNat ≤ 127
    omega
  rw [String.utf8EncodeChar_eq_singleton hc]
  rfl

/-- The encoded form of a text stands for the text, if no `%` of its own comes in between. -/
theorem bytes_encode {reserved : Char → Bool} (hr : Covers reserved) {cs : List Char}
    (h : '%' ∉ cs) : bytes (encode reserved cs) = Text.Utf8.encode cs := by
  induction cs with
  | nil => rfl
  | cons c cs ih =>
    rw [List.mem_cons, not_or] at h
    have hcons : Text.Utf8.encode (c :: cs) = String.utf8EncodeChar c ++ Text.Utf8.encode cs :=
      List.flatMap_cons
    rw [encode_cons, hcons, ← ih h.2]
    cases hc : reserved c with
    | true => rw [encodeChar_of_reserved hc, bytes_encodeBytes]
    | false =>
      have hvisible : isHidden c = false := by
        cases hh : isHidden c with
        | false => rfl
        | true => exact absurd (hr c hh) (Bool.eq_false_iff.mp hc)
      rw [encodeChar_of_plain hc, List.singleton_append, bytes_cons (Ne.symm h.1),
        utf8EncodeChar_of_visible hvisible, List.singleton_append]

/-- Texts without `%` are told apart by their encoded forms. -/
theorem encode_inj {reserved : Char → Bool} (hr : Covers reserved) {as bs : List Char}
    (ha : '%' ∉ as) (hb : '%' ∉ bs) (h : encode reserved as = encode reserved bs) : as = bs := by
  have hbytes := congrArg bytes h
  rw [bytes_encode hr ha, bytes_encode hr hb] at hbytes
  rw [← Text.Utf8.decodeLossy_encode as, hbytes, Text.Utf8.decodeLossy_encode]

/-! ## Dots -/

private theorem dotted_cons {c : Char} (h : c ≠ '%') (rest : List Char) :
    dotted (c :: rest) = c :: dotted rest :=
  dotted.eq_3 c rest (fun _ hc => absurd hc h) fun _ hc => absurd hc h

/-- A byte that is no dot stays encoded. -/
theorem dotted_encodeByte {b : UInt8} (h : b ≠ 0x2E) (rest : List Char) :
    dotted (encodeByte b ++ rest) = encodeByte b ++ dotted rest := by
  obtain ⟨hhigh, -, -, hdiv⟩ := upperHex_digit _ (toNat_div_lt b)
  obtain ⟨hlow, he, -, hmod⟩ := upperHex_digit _ (toNat_mod_lt b)
  have hupper (htwo : upperHex (b.toNat / 16) = '2') : upperHex (b.toNat % 16) ≠ 'E' := by
    intro hE
    rw [htwo] at hdiv
    rw [hE] at hmod
    have hdiv : 2 = b.toNat / 16 := Option.some.inj hdiv
    have hmod : 14 = b.toNat % 16 := Option.some.inj hmod
    exact h (UInt8.toNat_inj.mp (show b.toNat = 46 by omega))
  show dotted ('%' :: upperHex (b.toNat / 16) :: upperHex (b.toNat % 16) :: rest) = _
  rw [dotted.eq_3 _ _ (by simp [he]) (by simpa using hupper),
    dotted_cons hhigh, dotted_cons hlow]
  rfl

/-- No encoded dot goes over a `%`. -/
theorem dotted_append_percent (as bs : List Char) :
    dotted (as ++ '%' :: bs) = dotted as ++ dotted ('%' :: bs) := by
  fun_induction dotted as with
  | case1 rest ih => simp [dotted, ih]
  | case2 rest ih => simp [dotted, ih]
  | case3 c rest hlower hupper ih =>
    have hnone {e : Char} (he : e ≠ '%') (hrest : ∀ more, c = '%' → rest = '2' :: e :: more → False)
        (more : List Char) (hc : c = '%') : rest ++ '%' :: bs ≠ '2' :: e :: more := by
      intro heq
      rcases rest with _ | ⟨x, _ | ⟨y, rest⟩⟩
      · exact absurd (List.cons.inj heq).1 (by decide)
      · exact he (List.cons.inj (List.cons.inj heq).2).1.symm
      · obtain ⟨rfl, hy⟩ := List.cons.inj heq
        obtain ⟨rfl, -⟩ := List.cons.inj hy
        exact hrest rest hc rfl
    rw [List.cons_append, dotted.eq_3 _ _ (hnone (by decide) hlower) (hnone (by decide) hupper),
      ih, List.cons_append]
  | case4 => rfl

/-- The first byte of a character other than the dot is not that of the dot. -/
private theorem ne_dot_of_utf8EncodeChar {c : Char} (hc : c ≠ '.') {b : UInt8} {bs : Bytes}
    (h : String.utf8EncodeChar c = b :: bs) : b ≠ 0x2E := by
  rintro rfl
  have hform := Text.Utf8.form_encodeChar c
  rw [h] at hform
  cases hform with
  | single hb => exact hc (Text.Utf8.Lead.char.inj hb).symm
  | several hb => cases hb

/-- What is encoded is no part of a place. -/
theorem percent_mem_dotted {c : Char} (hc : pathReserved c = true) (as bs : List Char) :
    '%' ∈ dotted (as ++ (encodeChar pathReserved c ++ bs)) := by
  have hdot : c ≠ '.' := by
    rintro rfl
    cases hc
  obtain ⟨b, rest, hb⟩ := utf8EncodeChar_eq_cons c
  have hbyte := dotted_encodeByte (ne_dot_of_utf8EncodeChar hdot hb)
    (rest.flatMap encodeByte ++ bs)
  have hsplit := dotted_append_percent as
    (upperHex (b.toNat / 16) :: upperHex (b.toNat % 16) :: (rest.flatMap encodeByte ++ bs))
  rw [encodeChar_of_reserved hc, hb, List.flatMap_cons, List.append_assoc]
  refine hsplit ▸ List.mem_append_right _ ?_
  exact hbyte ▸ List.mem_append_left _ List.mem_cons_self

/-- Only a text that is not changed by encoding may mean a place when it is encoded. -/
theorem encode_eq_self {cs : List Char} (h : '%' ∉ dotted (encode pathReserved cs)) :
    encode pathReserved cs = cs := by
  refine encode_of_plain fun c hc => Bool.eq_false_iff.mpr fun hr => ?_
  obtain ⟨as, bs, rfl⟩ := List.append_of_mem hc
  rw [encode_append, encode_cons] at h
  exact h (percent_mem_dotted hr _ _)

/-- Encoding does not turn a text into a place. -/
private theorem dotted_encode_ne {cs place : List Char} (hplace : '%' ∉ place)
    (h : dotted cs ≠ place) : dotted (encode pathReserved cs) ≠ place := by
  rintro rfl
  rw [encode_eq_self hplace] at h
  exact h rfl

theorem isHere_encode {cs : List Char} (h : isHere cs = false) :
    isHere (encode pathReserved cs) = false := by
  rw [isHere, beq_eq_false_iff_ne] at h ⊢
  exact dotted_encode_ne (by decide) h

theorem isAbove_encode {cs : List Char} (h : isAbove cs = false) :
    isAbove (encode pathReserved cs) = false := by
  rw [isAbove, beq_eq_false_iff_ne] at h ⊢
  exact dotted_encode_ne (by decide) h

end TermSync.Rest.Target
