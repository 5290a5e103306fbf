import TermSync.Json.Node
import TermSync.Decimal.Shortest

/-!
# JSON values

An integer that fits 64 bits, signed or unsigned, stays an integer; every other number is a
double. A double is found from at most 64 bits of leading digits and one scaling by a power of
ten per 308 places (`scaleUp?`, `scaleDown`), each step rounded; so it can differ in the last bit
from the double nearest to the text. A number beyond the greatest double is refused.

The members of an object are sorted by key and the last of several equal keys counts
(`Value.insert`).
-/

namespace TermSync.Json

open Decimal (Binary64)

/-- A number: a 64-bit integer or a double. -/
inductive Number where
  | integer (i : Int)
  | double (d : Binary64)
deriving DecidableEq, Repr

/-- A JSON value. -/
inductive Value where
  | null
  | bool (b : Bool)
  | number (n : Number)
  | text (s : String)
  | array (items : List Value)
  | object (members : List (String × Value))
deriving Repr, Inhabited

/-- The greatest unsigned 64-bit integer. -/
def maxUnsigned : Nat := Nat.pow 2 64 - 1

/-- Take digits into a number as long as it fits 64 bits; the rest are left over. -/
def accumulate (n : Nat) : List Nat → Nat × List Nat
  | [] => (n, [])
  | d :: ds => if maxUnsigned < n * 10 + d then (n, d :: ds) else accumulate (n * 10 + d) ds

/-- A power of ten as a double. -/
def powerOfTen (k : Nat) : Option Binary64 := Binary64.ofNat? (Nat.pow 10 k)

/-- Multiply by a power of ten; nothing when the product overflows. -/
def scaleUp? (d : Binary64) (k : Nat) : Option Binary64 :=
  if k ≤ 308 then (powerOfTen k).bind d.mul?
  else if d.isZero then some d
  else none

/-- Divide by the greatest power of ten among the doubles so many times, or until nothing is
left. -/
def shrink (d : Binary64) : Nat → Option Binary64
  | 0 => some d
  | times + 1 =>
    if d.isZero then some d
    else
      match (powerOfTen 308).bind d.div? with
      | some e => shrink e times
      | none => none

/-- Divide by a power of ten, 308 places at a time. -/
def scaleDown (d : Binary64) (k : Nat) : Option Binary64 := do
  let times := (k - 1) / 308
  let e ← shrink d times
  (powerOfTen (k - 308 * times)).bind e.div?

/-- Scale by a signed power of ten. -/
def scale? (d : Binary64) (k : Int) : Option Binary64 :=
  if 0 ≤ k then scaleUp? d k.toNat else scaleDown d (-k).toNat

/-- The greatest exponent that is read as a number. -/
def maxExponent : Nat := Nat.pow 2 31 - 1

/-- The number that an exponent's digits name, unless it is beyond the greatest one. -/
def exponentOf? (ds : List Nat) : Option Nat :=
  let n := ds.foldl (· * 10 + ·) 0
  if maxExponent < n then none else some n

namespace Numeral

/-- The double that a numeral with a fraction, an exponent or too many digits stands for. -/
def toDouble? (n : Numeral) : Option Binary64 := do
  let (whole, beyond) := accumulate 0 n.integer
  let (significand, dropped) := accumulate whole n.fraction
  let places : Int := beyond.length - (n.fraction.length - dropped.length : Nat)
  let base ← Binary64.ofNat? significand
  let magnitude ←
    match n.exponent with
    | none => scale? base places
    | some (negative, ds) =>
      match exponentOf? ds with
      | some e => scale? base (if negative then places - e else places + e)
      | none => if negative || significand = 0 then some (Binary64.zero false) else none
  return magnitude.withSign n.negative

/-- The number that a numeral stands for. A negative zero is a double. -/
def toNumber? (n : Numeral) : Option Number :=
  match n.fraction, n.exponent, accumulate 0 n.integer with
  | [], none, (i, []) =>
    if n.negative then
      if i = 0 ∨ Nat.pow 2 63 < i then n.toDouble?.map .double else some (.integer (-i))
    else some (.integer i)
  | _, _, _ => n.toDouble?.map .double

end Numeral

namespace Value

/-- Put a member into sorted members, in place of one with the same key. -/
def insert (key : String) (v : Value) : List (String × Value) → List (String × Value)
  | [] => [(key, v)]
  | (k, w) :: rest =>
    if key = k then (key, v) :: rest
    else if key < k then (key, v) :: (k, w) :: rest
    else (k, w) :: insert key v rest

end Value

mutual

/-- The value of a tree in which at most `depth` arrays and objects are nested. Strings have to
have a text and numbers have to be in range. -/
def Node.toValue? (depth : Nat) : Node → Option Value
  | .null => some .null
  | .bool b => some (.bool b)
  | .number n => n.toNumber?.map .number
  | .text s => s.map .text
  | .array items => if depth = 0 then none else (itemsToValues? (depth - 1) items).map .array
  | .object members =>
    if depth = 0 then none else (membersToValues? (depth - 1) [] members).map .object

/-- The values of an array's items. -/
def itemsToValues? (depth : Nat) : List Node → Option (List Value)
  | [] => some []
  | v :: vs =>
    match v.toValue? depth, itemsToValues? depth vs with
    | some w, some ws => some (w :: ws)
    | _, _ => none

/-- The members of an object, put one after the other into those read before. -/
def membersToValues? (depth : Nat) (acc : List (String × Value)) :
    List (Option String × Node) → Option (List (String × Value))
  | [] => some acc
  | (key, v) :: rest =>
    match key, v.toValue? depth with
    | some k, some w => membersToValues? depth (Value.insert k w acc) rest
    | _, _ => none

end

namespace Value

/-- The text of a string value. -/
def text? : Value → Option String
  | .text s => some s
  | _ => none

/-- The value of a boolean. -/
def bool? : Value → Option Bool
  | .bool b => some b
  | _ => none

end Value

end TermSync.Json
