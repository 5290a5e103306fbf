/-!
# UTF-8 text in byte sequences

Terminals exchange bytes, while the wire carries text. Decoding reads one byte at a time
(`step`) and reports, in order, each character and each ill-formed part. An ill-formed part is
a single byte that starts no character, or the longest run of bytes that starts one which the
next byte (or the end) leaves unfinished. Lossy decoding writes U+FFFD for each such part.

`unfinished` measures the trailing bytes that a later byte may still complete. Main laws:
`pieces_append` (decoding goes on from where it stands), `unfinished_le` (never more than three
bytes are held back).
-/

namespace TermSync.Text

/-- Bytes as they travel to and from a terminal. -/
abbrev Bytes := List UInt8

namespace Utf8

/-- A character of which a proper prefix has been read: the value of the bits so far, the number
of continuation bytes still due, and the range that the next of them has to lie in. -/
structure Partial where
  bits : Nat
  due : Nat
  low : UInt8
  high : UInt8
deriving DecidableEq, Repr

/-- What the first byte of a character announces. -/
inductive Lead where
  | char (c : Char)
  | opens (p : Partial)
  | illFormed
deriving DecidableEq, Repr

/-- Classify a byte that stands between characters. The ranges of the second byte exclude
overlong forms, surrogates and values beyond U+10FFFF. -/
def lead (b : UInt8) : Lead :=
  if b < 0x80 then .char (Char.ofNat b.toNat)
  else if b < 0xC2 then .illFormed
  else if b < 0xE0 then .opens ⟨b.toNat % 32, 1, 0x80, 0xBF⟩
  else if b < 0xF0 then
    .opens ⟨b.toNat % 16, 2, if b = 0xE0 then 0xA0 else 0x80, if b = 0xED then 0x9F else 0xBF⟩
  else if b < 0xF5 then
    .opens ⟨b.toNat % 8, 3, if b = 0xF0 then 0x90 else 0x80, if b = 0xF4 then 0x8F else 0xBF⟩
  else .illFormed

/-- Read a byte between characters: what is reported, and where the reader stands afterwards. -/
def start (b : UInt8) : List (Option Char) × Option Partial :=
  match lead b with
  | .char c => ([some c], none)
  | .opens p => ([], some p)
  | .illFormed => ([none], none)

/-- Read one byte. A byte that does not continue an open character closes it as ill-formed and
is read again between characters. -/
def step : Option Partial → UInt8 → List (Option Char) × Option Partial
  | none, b => start b
  | some p, b =>
    if p.low ≤ b ∧ b ≤ p.high then
      let bits := p.bits * 64 + b.toNat % 64
      if p.due ≤ 1 then ([some (Char.ofNat bits)], none)
      else ([], some ⟨bits, p.due - 1, 0x80, 0xBF⟩)
    else
      (none :: (start b).1, (start b).2)

/-- The characters (`some`) and ill-formed parts (`none`) of a byte sequence, read from a given
position. A character that the end cuts off is an ill-formed part. -/
def pieces : Option Partial → Bytes → List (Option Char)
  | none, [] => []
  | some _, [] => [none]
  | q, b :: bs => (step q b).1 ++ pieces (step q b).2 bs

/-- Where the reader stands after a byte sequence. -/
def after : Option Partial → Bytes → Option Partial
  | q, [] => q
  | q, b :: bs => after (step q b).2 bs

/-- What is reported while a byte sequence is read, without closing a character at its end. -/
def reported : Option Partial → Bytes → List (Option Char)
  | _, [] => []
  | q, b :: bs => (step q b).1 ++ reported (step q b).2 bs

/-- Reading two parts is reading the first, then the second from where the first left off. -/
theorem pieces_append (q : Option Partial) (as bs : Bytes) :
    pieces q (as ++ bs) = reported q as ++ pieces (after q as) bs := by
  induction as generalizing q with
  | nil => rfl
  | cons a as ih => simp [pieces, reported, after, ih]

/-- The character that stands for an ill-formed part. -/
def replacement : Char := '\uFFFD'

/-- The text of a byte sequence, with U+FFFD for each ill-formed part. -/
def decodeLossy (bs : Bytes) : List Char := (pieces none bs).map (·.getD replacement)

/-- The text of a byte sequence that has no ill-formed part. -/
def decode? (bs : Bytes) : Option (List Char) := (pieces none bs).mapM id

/-- The UTF-8 form of a text. -/
def encode (cs : List Char) : Bytes := cs.flatMap String.utf8EncodeChar

/-- Encoding goes character by character. -/
theorem encode_append (cs ds : List Char) : encode (cs ++ ds) = encode cs ++ encode ds :=
  List.flatMap_append

/-- A byte that can only stand inside a character. -/
def isContinuation (b : UInt8) : Bool := b &&& 0xC0 == 0x80

/-- The length that a first byte announces for its character, by its high bits alone. -/
def announced (b : UInt8) : Nat :=
  if b &&& 0xE0 == 0xC0 then 2
  else if b &&& 0xF0 == 0xE0 then 3
  else if b &&& 0xF8 == 0xF0 then 4
  else 1

/-- Look back over the last bytes, nearest first, for the first byte of a character that
announces more bytes than have come. `back` counts the bytes looked at. -/
def unfinishedFrom (back : Nat) : Bytes → Nat
  | [] => 0
  | b :: earlier =>
    if isContinuation b then unfinishedFrom (back + 1) earlier
    else if back < announced b then back
    else 0

/-- The number of trailing bytes that belong to a character not yet complete. A character has
at most four bytes, so only the last three can be a part of one. -/
def unfinished (bs : Bytes) : Nat := unfinishedFrom 1 (bs.reverse.take 3)

private theorem unfinishedFrom_lt (back : Nat) (bs : Bytes) :
    unfinishedFrom back bs < back + bs.length ∨ unfinishedFrom back bs = 0 := by
  induction bs generalizing back with
  | nil => exact .inr rfl
  | cons b bs ih =>
    unfold unfinishedFrom
    split
    · rcases ih (back + 1) with h | h
      · left; simp only [List.length_cons]; omega
      · exact .inr h
    · split
      · left; simp only [List.length_cons]; omega
      · exact .inr rfl

/-- The held-back tail is a part of the bytes. -/
theorem unfinished_le_length (bs : Bytes) : unfinished bs ≤ bs.length := by
  have h := unfinishedFrom_lt 1 (bs.reverse.take 3)
  simp only [List.length_take, List.length_reverse] at h
  unfold unfinished
  omega

/-- At most three bytes are held back. -/
theorem unfinished_le (bs : Bytes) : unfinished bs ≤ 3 := by
  have h := unfinishedFrom_lt 1 (bs.reverse.take 3)
  simp only [List.length_take, List.length_reverse] at h
  unfold unfinished
  omega

end Utf8
end TermSync.Text
