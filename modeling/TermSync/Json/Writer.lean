import TermSync.Json.Value

/-!
# Writing JSON text

Nothing is written between tokens. In strings the quote, the backslash and the control characters
below U+0020 are escaped, by their short form if they have one; all else stands as it is. A
double has the fewest digits that read back, with a point at least, and an exponent, which carries
its sign, from 10 ^ 16 on and below 10 ^ -5.
-/

namespace TermSync.Json

/-- The hexadecimal digit of a number below 16, in lower case. -/
def hexDigit (n : Nat) : Char :=
  if n < 10 then Char.ofNat ('0'.toNat + n) else Char.ofNat ('a'.toNat + (n - 10))

/-- A character of a string, as written. -/
def escape (c : Char) : List Char :=
  if c = '"' then ['\\', '"']
  else if c = '\\' then ['\\', '\\']
  else if c = '\x08' then ['\\', 'b']
  else if c = '\x0c' then ['\\', 'f']
  else if c = '\n' then ['\\', 'n']
  else if c = '\r' then ['\\', 'r']
  else if c = '\t' then ['\\', 't']
  else if c.toNat < 0x20 then
    ['\\', 'u', '0', '0', hexDigit (c.toNat / 16), hexDigit (c.toNat % 16)]
  else [c]

/-- A string, as written. -/
def quote (s : String) : List Char := '"' :: s.toList.flatMap escape ++ ['"']

/-- An integer, as written. -/
def writeInteger (i : Int) : List Char :=
  if i < 0 then '-' :: Nat.toDigits 10 i.natAbs else Nat.toDigits 10 i.natAbs

/-- An exponent, as written: with its sign. -/
def writeExponent (e : Int) : List Char :=
  'e' :: (if e < 0 then '-' else '+') :: Nat.toDigits 10 e.natAbs

/-- A positive decimal. Positional notation is kept for magnitudes from 10 ^ -5 up to below
10 ^ 16. -/
def writeDigits (d : Decimal.Digits) : List Char :=
  let ds := d.digits.map hexDigit
  let count : Int := ds.length
  if count ≤ d.point ∧ d.point ≤ 16 then
    ds ++ List.replicate (d.point - count).toNat '0' ++ ['.', '0']
  else if 0 < d.point ∧ d.point ≤ 16 then
    ds.take d.point.toNat ++ ['.'] ++ ds.drop d.point.toNat
  else if -5 < d.point ∧ d.point ≤ 0 then
    ['0', '.'] ++ List.replicate (-d.point).toNat '0' ++ ds
  else
    let mantissa := if ds.length = 1 then ds else ds.take 1 ++ ['.'] ++ ds.drop 1
    mantissa ++ writeExponent (d.point - 1)

/-- A double, as written. -/
def writeDouble (d : Decimal.Binary64) : List Char :=
  let magnitude := if d.isZero then ['0', '.', '0'] else writeDigits (Decimal.shortest d)
  if d.negative then '-' :: magnitude else magnitude

/-- A number, as written. -/
def writeNumber : Number → List Char
  | .integer i => writeInteger i
  | .double d => writeDouble d

mutual

/-- A value, as written. -/
def Value.write : Value → List Char
  | .null => ['n', 'u', 'l', 'l']
  | .bool true => ['t', 'r', 'u', 'e']
  | .bool false => ['f', 'a', 'l', 's', 'e']
  | .number n => writeNumber n
  | .text s => quote s
  | .array [] => ['[', ']']
  | .array (v :: vs) => '[' :: v.write ++ writeItems vs
  | .object [] => ['{', '}']
  | .object ((k, v) :: ms) => '{' :: quote k ++ ':' :: v.write ++ writeMembers ms

/-- The items of an array after its first one, and the closing bracket. -/
def writeItems : List Value → List Char
  | [] => [']']
  | v :: vs => ',' :: v.write ++ writeItems vs

/-- The members of an object after its first one, and the closing brace. -/
def writeMembers : List (String × Value) → List Char
  | [] => ['}']
  | (k, v) :: ms => ',' :: quote k ++ ':' :: v.write ++ writeMembers ms

end

/-- A member with a text, if there is a text. -/
def textMember (name : String) : Option String → List (String × Value)
  | some s => [(name, .text s)]
  | none => []

/-- The JSON text of a value. -/
def Value.toText (v : Value) : String := String.ofList v.write

end TermSync.Json
