/-!
# Finite binary64 numbers

A finite binary64 number is held as its sign and its rank among the non-negative finite numbers in increasing
order: rank 0 is zero and rank `r + 1` is the next larger number. The rank is the number's bit pattern without
its sign bit, so every rank below `Binary64.infinityRank` is a number and equal values have equal ranks.

* `Binary64.scaled` writes the magnitude as `mantissa * 2 ^ exponent`.
* `Binary64.ofRatio` is rounding of a ratio of natural numbers to the nearest number, a tie going to the even
  rank; a ratio that rounds past the largest number has none.
* `Binary64.timesTen` and `Binary64.overTen` are the rounded product and quotient with a rounded power of ten.
-/

namespace Rulebook

/-- A finite binary64 number: its sign and its rank among the non-negative ones. -/
structure Binary64 where
  negative : Bool
  rank : Nat
  finite : rank < 2047 <<< 52
  deriving DecidableEq

namespace Binary64

/-- The rank that infinity would have. -/
def infinityRank : Nat := 2047 <<< 52

/-- Zero with a sign. -/
def zero (negative : Bool) : Binary64 := ⟨negative, 0, by decide⟩

instance : Inhabited Binary64 := ⟨zero false⟩

/-- The number with the given rank, if it is finite. -/
def ofRank? (negative : Bool) (rank : Nat) : Option Binary64 :=
  if h : rank < 2047 <<< 52 then some ⟨negative, rank, h⟩ else none

/-- The same magnitude under another sign. -/
def withSign (x : Binary64) (negative : Bool) : Binary64 := { x with negative }

/-- Numeric equality: both zeros are equal, otherwise sign and rank agree. -/
def same (x y : Binary64) : Bool :=
  x.rank == y.rank && (x.rank == 0 || x.negative == y.negative)

/-- Mantissa and exponent: the magnitude is `mantissa * 2 ^ exponent`. -/
def scaled (x : Binary64) : Nat × Int :=
  let field : Nat := x.rank >>> 52
  let fraction : Nat := x.rank % (1 <<< 52)
  if field = 0 then (fraction, -1074) else (fraction + (1 <<< 52), (field : Int) - 1075)

/-- The ratio `mantissa * 2 ^ exponent` as numerator and denominator. -/
def ratioOf (mantissa : Nat) (exponent : Int) : Nat × Nat :=
  if 0 ≤ exponent then (mantissa <<< exponent.toNat, 1) else (mantissa, 1 <<< (-exponent).toNat)

/-- The magnitude as numerator and denominator. -/
def ratio (x : Binary64) : Nat × Nat := ratioOf x.scaled.1 x.scaled.2

/-- The quotient rounded to the nearest natural number, a tie going to the even one. -/
def roundHalfEven (num den : Nat) : Nat :=
  let floor := num / den
  let twice := 2 * (num % den)
  if twice < den ∨ (twice = den ∧ floor % 2 = 0) then floor else floor + 1

/-- The least exponent, not below `-1074`, at which `num / den` takes fewer than 54 binary digits. -/
def unitExponent (num den : Nat) : Int :=
  let guess : Int := max ((num.log2 : Int) - (den.log2 : Int) - 53) (-1074)
  let fits (q : Int) : Bool :=
    if 0 ≤ q + 53 then num < den <<< (q + 53).toNat else num <<< (-(q + 53)).toNat < den
  if fits guess then guess else guess + 1

/-- The ratio rounded to the nearest number, or none where that lies past the largest one. -/
def ofRatio (negative : Bool) (num den : Nat) : Option Binary64 :=
  if num = 0 then some (zero negative)
  else
    let q := unitExponent num den
    let units :=
      if 0 ≤ q then roundHalfEven num (den <<< q.toNat) else roundHalfEven (num <<< (-q).toNat) den
    ofRank? negative (((q + 1074).toNat <<< 52) + units)

/-- A natural number rounded to the nearest number. -/
def ofNat? (n : Nat) : Option Binary64 := ofRatio false n 1

/-- The power of ten rounded to the nearest number. -/
def tenPow? (k : Nat) : Option Binary64 := ofNat? (Nat.pow 10 k)

/-- The rounded product with the rounded `10 ^ k`. -/
def timesTen (x : Binary64) (k : Nat) : Option Binary64 := do
  let power ← tenPow? k
  let (a, b) := x.ratio
  let (c, d) := power.ratio
  ofRatio x.negative (a * c) (b * d)

/-- The rounded quotient by the rounded `10 ^ k`. -/
def overTen (x : Binary64) (k : Nat) : Option Binary64 := do
  let power ← tenPow? k
  let (a, b) := x.ratio
  let (c, d) := power.ratio
  ofRatio x.negative (a * d) (b * c)

/-- Numeric equality relates every number to itself. -/
@[simp] theorem same_self (x : Binary64) : x.same x = true := by simp [same]

end Binary64

end Rulebook
