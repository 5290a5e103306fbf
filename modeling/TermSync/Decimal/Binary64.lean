/-!
# Double-precision numbers as exact values

A finite double is an integer multiple of a power of two. Rounding a quotient of naturals to the
nearest double (`ofRatio`, ties to the even neighbour) is done in exact arithmetic, so that
products and quotients of doubles have the value that the IEEE 754 operations give them.
Main law: `roundDiv_close` (a rounded quotient is within half a unit).
-/

namespace TermSync.Decimal

/-- A finite double: `± mantissa * 2 ^ exponent`. -/
structure Binary64 where
  negative : Bool
  mantissa : Nat
  exponent : Int
deriving DecidableEq, Repr

/-- The nearest natural to a quotient; of two equally near ones the even one. -/
def roundDiv (num den : Nat) : Nat :=
  let q := num / den
  let r := num % den
  if 2 * r < den then q
  else if den < 2 * r then q + 1
  else if q % 2 = 0 then q else q + 1

/-- A rounded quotient is within half a unit of the exact one. -/
theorem roundDiv_close (num den : Nat) (h : 0 < den) :
    2 * (roundDiv num den * den) ≤ 2 * num + den ∧
      2 * num ≤ 2 * (roundDiv num den * den) + den := by
  have hm := Nat.mod_lt num h
  have hd := Nat.div_add_mod num den
  have hs : (num / den + 1) * den = den * (num / den) + den := by
    rw [Nat.add_mul, Nat.one_mul, Nat.mul_comm]
  have hc : num / den * den = den * (num / den) := Nat.mul_comm _ _
  unfold roundDiv
  simp only
  split
  · rw [hc]; omega
  · split
    · rw [hs]; omega
    · split
      · rw [hc]; omega
      · rw [hs]; omega

namespace Binary64

/-- The least exponent, shared by zero and the subnormal numbers. -/
def minExponent : Int := -1074

/-- The greatest exponent. -/
def maxExponent : Int := 971

/-- Zero with a sign. -/
def zero (negative : Bool) : Binary64 := ⟨negative, 0, minExponent⟩

/-- The quotient `num / (den * 2 ^ e)` as a pair of naturals. -/
def scaled (num den : Nat) (e : Int) : Nat × Nat :=
  if e < 0 then (num * Nat.pow 2 (-e).toNat, den) else (num, den * Nat.pow 2 e.toNat)

/-- The exponent of the doubles nearest to a positive quotient. -/
def ratioExponent (num den : Nat) : Int :=
  let e := max ((num.log2 : Int) - den.log2 - 53) minExponent
  let (n, d) := scaled num den e
  if Nat.pow 2 53 ≤ n / d then e + 1 else e

/-- The double nearest to a quotient, or nothing when it lies beyond the greatest one. -/
def ofRatio (num den : Nat) : Option Binary64 :=
  if num = 0 then some (zero false)
  else
    let e := ratioExponent num den
    let (n, d) := scaled num den e
    let m := roundDiv n d
    let (m, e) := if m = Nat.pow 2 53 then (Nat.pow 2 52, e + 1) else (m, e)
    if maxExponent < e then none else some ⟨false, m, e⟩

/-- The double nearest to a natural. -/
def ofNat? (n : Nat) : Option Binary64 := ofRatio n 1

/-- The same number with a sign put to it. -/
def withSign (negative : Bool) (d : Binary64) : Binary64 := { d with negative }

/-- The magnitude as a quotient of naturals. -/
def ratio (d : Binary64) : Nat × Nat :=
  if d.exponent < 0 then (d.mantissa, Nat.pow 2 (-d.exponent).toNat)
  else (d.mantissa * Nat.pow 2 d.exponent.toNat, 1)

/-- The product of two magnitudes, or nothing when it overflows. -/
def mul? (a b : Binary64) : Option Binary64 :=
  let (an, ad) := a.ratio
  let (bn, bd) := b.ratio
  ofRatio (an * bn) (ad * bd)

/-- The quotient of two magnitudes, or nothing when it overflows or the divisor is zero. -/
def div? (a b : Binary64) : Option Binary64 :=
  let (an, ad) := a.ratio
  let (bn, bd) := b.ratio
  if bn = 0 then none else ofRatio (an * bd) (ad * bn)

/-- The magnitude without its fraction. -/
def truncate (d : Binary64) : Nat :=
  let (n, m) := d.ratio
  n / m

/-- Whether the number is zero, of either sign. -/
def isZero (d : Binary64) : Bool := d.mantissa == 0

end Binary64
end TermSync.Decimal
