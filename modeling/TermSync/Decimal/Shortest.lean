import TermSync.Decimal.Binary64

/-!
# The shortest decimal that reads back

Every real number between two bounds rounds to a given double. The text of a double has the
fewest digits that lie within these bounds and, of those, the digits nearest to the double. For
1, 2, … digits the two neighbours of the double on the grid of that many digits are tested; if
any point of a grid lies within the bounds, one of these two does.
-/

namespace TermSync.Decimal

/-- A positive decimal `0.d₁d₂… * 10 ^ point`, without trailing zeros. -/
structure Digits where
  digits : List Nat
  point : Int
deriving DecidableEq, Repr

/-- The reals that round to a positive double, over a common denominator: the double itself, the
two ends, and whether the ends round to it as well. -/
structure Interval where
  value : Nat
  low : Nat
  high : Nat
  den : Nat
  closed : Bool
deriving DecidableEq, Repr

namespace Interval

/-- The bounds of a double lie half way to its neighbours. The lower neighbour of a power of two
is only half as far away. -/
def ofDouble (d : Binary64) : Interval :=
  let below := if d.mantissa = Nat.pow 2 52 ∧ Binary64.minExponent < d.exponent then 1 else 2
  let e := d.exponent - 2
  let unit := if e < 0 then 1 else Nat.pow 2 e.toNat
  let den := if e < 0 then Nat.pow 2 (-e).toNat else 1
  { value := 4 * d.mantissa * unit
    low := (4 * d.mantissa - below) * unit
    high := (4 * d.mantissa + 2) * unit
    den
    closed := d.mantissa % 2 = 0 }

/-- Whether the real `num / den` rounds to the double. -/
def contains (i : Interval) (num den : Nat) : Bool :=
  if i.closed then i.low * den ≤ num * i.den && num * i.den ≤ i.high * den
  else i.low * den < num * i.den && num * i.den < i.high * den

/-- The power of ten of the leading digit of `num / den`. -/
def leading (num den : Nat) : Int :=
  if den ≤ num then ((Nat.toDigits 10 (num / den)).length : Int) - 1
  else
    let k := (Nat.toDigits 10 (den / num)).length
    if den ≤ num * Nat.pow 10 (k - 1) then -((k : Int) - 1) else -(k : Int)

/-- The point `n * 10 ^ p` of a decimal grid, as a quotient. -/
def gridPoint (n : Nat) (p : Int) : Nat × Nat :=
  if p < 0 then (n, Nat.pow 10 (-p).toNat) else (n * Nat.pow 10 p.toNat, 1)

/-- The distance of a quotient from the double, over the common denominator. -/
def distance (i : Interval) (num den : Nat) : Nat :=
  max (i.value * den) (num * i.den) - min (i.value * den) (num * i.den)

/-- The point nearest to the double, on the grid `10 ^ p`, that rounds to it. -/
def nearest? (i : Interval) (p : Int) : Option Nat :=
  let unit := gridPoint 1 p
  let n := (i.value * unit.2) / (i.den * unit.1)
  let (ln, ld) := gridPoint n p
  let (hn, hd) := gridPoint (n + 1) p
  let lowHit := n ≠ 0 && i.contains ln ld
  let highHit := i.contains hn hd
  if lowHit && highHit then
    let dl := i.distance ln ld
    let dh := i.distance hn hd
    if dl < dh then some n
    else if dh < dl then some (n + 1)
    else if n % 2 = 0 then some n else some (n + 1)
  else if lowHit then some n
  else if highHit then some (n + 1)
  else none

end Interval

/-- Digits of a natural, most significant first, without trailing zeros. -/
def significant (n : Nat) : List Nat :=
  let ds := (Nat.toDigits 10 n).map fun c => c.toNat - '0'.toNat
  (ds.reverse.dropWhile (· == 0)).reverse

/-- Look for the first grid with a hit, from `k` digits on. -/
def shortestFrom (i : Interval) (lead : Int) : Nat → Nat → Digits
  | 0, _ => ⟨[], 0⟩
  | fuel + 1, k =>
    let p := lead + 1 - k
    match i.nearest? p with
    | some n => ⟨significant n, p + (Nat.toDigits 10 n).length⟩
    | none => shortestFrom i lead fuel (k + 1)

/-- The shortest decimal that reads back as a positive double. Seventeen digits always do. -/
def shortest (d : Binary64) : Digits :=
  let i := Interval.ofDouble d
  shortestFrom i (Interval.leading i.value i.den) 17 1

end TermSync.Decimal
