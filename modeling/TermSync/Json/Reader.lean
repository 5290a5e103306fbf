import TermSync.Json.Node

/-!
# Reading JSON text

The grammar is that of RFC 8259, without a byte order mark, comments or trailing commas; blanks
are space, tab, line feed and carriage return. Nesting is not limited here.

`readNode` takes fuel, and `Node.ofText?` gives it more than any text of that length can use:
each character is the first one of at most one value and of at most one list of values.
-/

namespace TermSync.Json

/-- The blanks that may stand between tokens. -/
def isBlank (c : Char) : Bool := c == ' ' || c == '\t' || c == '\n' || c == '\r'

/-- Drop the blanks in front. -/
def skipBlank (cs : List Char) : List Char := cs.dropWhile isBlank

/-- A decimal digit. -/
def digit? (c : Char) : Option Nat :=
  if '0' ≤ c ∧ c ≤ '9' then some (c.toNat - '0'.toNat) else none

/-- A hexadecimal digit of either case. -/
def hexDigit? (c : Char) : Option Nat :=
  if '0' ≤ c ∧ c ≤ '9' then some (c.toNat - '0'.toNat)
  else if 'a' ≤ c ∧ c ≤ 'f' then some (c.toNat - 'a'.toNat + 10)
  else if 'A' ≤ c ∧ c ≤ 'F' then some (c.toNat - 'A'.toNat + 10)
  else none

/-- The digits in front, in order, and what follows them. -/
def spanDigits : List Char → List Nat × List Char
  | [] => ([], [])
  | c :: cs =>
    match digit? c with
    | some d => (d :: (spanDigits cs).1, (spanDigits cs).2)
    | none => ([], c :: cs)

/-- The digits after a decimal point; one at least. -/
def readFraction : List Char → Option (List Nat × List Char)
  | '.' :: cs =>
    match spanDigits cs with
    | ([], _) => none
    | (ds, r) => some (ds, r)
  | cs => some ([], cs)

/-- An exponent's sign and digits; one digit at least. -/
def readExponent : List Char → Option (Option (Bool × List Nat) × List Char)
  | c :: cs =>
    if c = 'e' ∨ c = 'E' then
      let (negative, cs) :=
        match cs with
        | '+' :: r => (false, r)
        | '-' :: r => (true, r)
        | r => (false, r)
      match spanDigits cs with
      | ([], _) => none
      | (ds, r) => some (some (negative, ds), r)
    else some (none, c :: cs)
  | [] => some (none, [])

/-- A number. Only a lone zero may start with a zero. -/
def readNumeral (cs : List Char) : Option (Numeral × List Char) := do
  let (negative, cs) :=
    match cs with
    | '-' :: r => (true, r)
    | r => (false, r)
  let (integer, cs) := spanDigits cs
  guard (integer ≠ [])
  guard (integer.head? ≠ some 0 ∨ integer.length = 1)
  let (fraction, cs) ← readFraction cs
  let (exponent, cs) ← readExponent cs
  return (⟨negative, integer, fraction, exponent⟩, cs)

/-- A part of a string: a character, or the UTF-16 unit that a numeric escape names. -/
inductive Piece where
  | char (c : Char)
  | unit (n : Nat)
deriving DecidableEq, Repr

/-- The character of a one-letter escape. -/
def simpleEscape? : Char → Option Char
  | '"' => some '"'
  | '\\' => some '\\'
  | '/' => some '/'
  | 'b' => some '\x08'
  | 'f' => some '\x0c'
  | 'n' => some '\n'
  | 'r' => some '\r'
  | 't' => some '\t'
  | _ => none

/-- The parts of a string whose opening quote has been read, after those in `acc` (newest
first), and what follows the closing quote. Raw control characters are not allowed. -/
def readPieces (acc : List Piece) : List Char → Option (List Piece × List Char)
  | '"' :: cs => some (acc.reverse, cs)
  | '\\' :: 'u' :: a :: b :: c :: d :: cs =>
    match hexDigit? a, hexDigit? b, hexDigit? c, hexDigit? d with
    | some a, some b, some c, some d =>
      readPieces (.unit (((a * 16 + b) * 16 + c) * 16 + d) :: acc) cs
    | _, _, _, _ => none
  | '\\' :: e :: cs =>
    match simpleEscape? e with
    | some c => readPieces (.char c :: acc) cs
    | none => none
  | c :: cs => if c.toNat < 0x20 ∨ c = '\\' then none else readPieces (.char c :: acc) cs
  | [] => none

/-- The first half of a surrogate pair. -/
def isHighSurrogate (n : Nat) : Bool := 0xD800 ≤ n && n < 0xDC00

/-- The second half of a surrogate pair. -/
def isLowSurrogate (n : Nat) : Bool := 0xDC00 ≤ n && n < 0xE000

/-- The text of a string's parts, after the characters in `acc` (newest first). Two escapes in a
row may name a surrogate pair; any other half of a pair has no text. -/
def joinPieces (acc : List Char) : List Piece → Option (List Char)
  | [] => some acc.reverse
  | .char c :: ps => joinPieces (c :: acc) ps
  | .unit h :: ps =>
    if isHighSurrogate h then
      match ps with
      | .unit l :: ps =>
        if isLowSurrogate l then
          joinPieces (Char.ofNat (0x10000 + (h - 0xD800) * 0x400 + (l - 0xDC00)) :: acc) ps
        else none
      | _ => none
    else if isLowSurrogate h then none
    else joinPieces (Char.ofNat h :: acc) ps

/-- A string whose opening quote has been read. -/
def readText (cs : List Char) : Option (Option String × List Char) := do
  let (ps, r) ← readPieces [] cs
  return ((joinPieces [] ps).map String.ofList, r)

mutual

/-- A value, after any blanks. -/
def readNode : Nat → List Char → Option (Node × List Char)
  | 0, _ => none
  | fuel + 1, cs =>
    match skipBlank cs with
    | 'n' :: 'u' :: 'l' :: 'l' :: r => some (.null, r)
    | 't' :: 'r' :: 'u' :: 'e' :: r => some (.bool true, r)
    | 'f' :: 'a' :: 'l' :: 's' :: 'e' :: r => some (.bool false, r)
    | '"' :: r =>
      match readText r with
      | some (s, r) => some (.text s, r)
      | none => none
    | '[' :: r =>
      match skipBlank r with
      | ']' :: r => some (.array [], r)
      | r => readItems fuel [] r
    | '{' :: r =>
      match skipBlank r with
      | '}' :: r => some (.object [], r)
      | r => readMembers fuel [] r
    | r =>
      match readNumeral r with
      | some (n, r) => some (.number n, r)
      | none => none

/-- The items of an array that has one more at least, after those in `acc` (newest first). -/
def readItems : Nat → List Node → List Char → Option (Node × List Char)
  | 0, _, _ => none
  | fuel + 1, acc, cs =>
    match readNode fuel cs with
    | some (v, r) =>
      match skipBlank r with
      | ',' :: r => readItems fuel (v :: acc) r
      | ']' :: r => some (.array (v :: acc).reverse, r)
      | _ => none
    | none => none

/-- The members of an object that has one more at least, after those in `acc` (newest first). -/
def readMembers : Nat → List (Option String × Node) → List Char → Option (Node × List Char)
  | 0, _, _ => none
  | fuel + 1, acc, cs =>
    match skipBlank cs with
    | '"' :: r =>
      match readText r with
      | some (key, r) =>
        match skipBlank r with
        | ':' :: r =>
          match readNode fuel r with
          | some (v, r) =>
            match skipBlank r with
            | ',' :: r => readMembers fuel ((key, v) :: acc) r
            | '}' :: r => some (.object ((key, v) :: acc).reverse, r)
            | _ => none
          | none => none
        | _ => none
      | none => none
    | _ => none

end

/-- The tree of a text that holds one value and nothing else but blanks. -/
def Node.ofChars? (cs : List Char) : Option Node :=
  match readNode (2 * cs.length + 2) cs with
  | some (v, r) => if skipBlank r = [] then some v else none
  | none => none

/-- The tree of a JSON text. -/
def Node.ofText? (s : String) : Option Node := Node.ofChars? s.toList

end TermSync.Json
