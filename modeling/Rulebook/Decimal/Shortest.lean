import Rulebook.Decimal.Binary64

/-!
# Shortest decimal digits

`Shortest.digits x` is the shortest run of decimal digits that reads back as the magnitude of `x`; among runs of
that length it is the one nearest to it, and of two equally near the one with the even last digit. The numbers
that read back as `x` form the interval `Shortest.Interval` between the midpoints to both neighbours, ends
included when the mantissa is even. For each length the two points next to `x` on that decimal grid are tried.
-/

namespace Rulebook
namespace Shortest

/-- Decimal digits with the exponent of the first one: the value is `d.ddd * 10 ^ exponent`. -/
structure Decimal where
  digits : List Nat
  exponent : Int
  deriving DecidableEq

/-- The numbers that round to a given one: `low / den` to `high / den`, ends included when `closed`. -/
structure Interval where
  low : Nat
  value : Nat
  high : Nat
  den : Nat
  closed : Bool

/-- The interval of a positive number. Below a power of two the neighbours are closer. -/
def Interval.of (x : Binary64) : Interval :=
  let (m, q) := x.scaled
  let tight := m = 1 <<< 52 ∧ q ≠ -1074
  let (unit, den) := Binary64.ratioOf 1 (q - 2)
  { low := (if tight then 4 * m - 1 else 4 * m - 2) * unit
    value := 4 * m * unit
    high := (4 * m + 2) * unit
    den
    closed := m % 2 = 0 }

/-- Whether `num / den` lies in the interval. -/
def Interval.has (i : Interval) (num den : Nat) : Bool :=
  if i.closed then decide (i.low * den ≤ num * i.den ∧ num * i.den ≤ i.high * den)
  else decide (i.low * den < num * i.den ∧ num * i.den < i.high * den)

/-- `n * 10 ^ e` as numerator and denominator. -/
def tenRatio (n : Nat) (e : Int) : Nat × Nat :=
  if 0 ≤ e then (n * Nat.pow 10 e.toNat, 1) else (n, Nat.pow 10 (-e).toNat)

/-- The exponent `e` with `10 ^ e ≤ num / den < 10 ^ (e + 1)`, for a positive ratio. -/
def leadingExponent (num den : Nat) : Int :=
  let guess : Int := Int.fdiv (((num.log2 : Int) - (den.log2 : Int)) * 30103) 100000
  let reaches (e : Int) : Bool :=
    let (a, b) := tenRatio 1 e
    decide (a * den ≤ num * b)
  if reaches (guess + 1) then guess + 1 else if reaches guess then guess else guess - 1

/-- The decimal digits of a natural number, most significant first. -/
def digitsOf (n : Nat) : List Nat := (Nat.toDigits 10 n).map fun c => c.toNat - 48

/-- Digits without trailing zeros, the first one kept. -/
def trimZeros (ds : List Nat) : List Nat :=
  match ds with
  | [] => []
  | d :: rest => d :: (rest.reverse.dropWhile (· == 0)).reverse

/-- The grid point of the given spacing that reads back and is nearest to the value, if one does. -/
def onGrid (i : Interval) (spacing : Int) : Option Nat :=
  let (a, b) := tenRatio 1 spacing
  let below := (i.value * b) / (i.den * a)
  let above := below + 1
  let reads (n : Nat) : Bool := 0 < n && (let (c, d) := tenRatio n spacing; i.has c d)
  match reads below, reads above with
  | false, false => none
  | true, false => some below
  | false, true => some above
  | true, true =>
    let left := i.value * b - below * (i.den * a)
    let right := above * (i.den * a) - i.value * b
    if left < right ∨ (left = right ∧ below % 2 = 0) then some below else some above

/-- The first length, at most `fuel`, whose grid has a point that reads back. -/
def search (i : Interval) (leading : Int) : Nat → Nat → Option (Nat × Int)
  | 0, _ => none
  | fuel + 1, length =>
    let spacing := leading - (length : Int)
    match onGrid i spacing with
    | some n => some (n, spacing)
    | none => search i leading fuel (length + 1)

/-- The shortest decimal that reads back as the magnitude of `x`; zero is the digit 0. -/
def decimal (x : Binary64) : Decimal :=
  if x.rank = 0 then ⟨[0], 0⟩
  else
    let i := Interval.of x
    match search i (leadingExponent i.value i.den) 17 0 with
    | none => ⟨[0], 0⟩
    | some (n, spacing) =>
      let ds := digitsOf n
      ⟨trimZeros ds, spacing + (ds.length : Int) - 1⟩

/-- The digits in positional notation, with a zero where one side of the point would be empty. -/
def Decimal.positional (d : Decimal) : List Char :=
  let cs := d.digits.map fun n => Char.ofNat (48 + n)
  if d.exponent < 0 then
    ['0', '.'] ++ List.replicate ((-d.exponent).toNat - 1) '0' ++ cs
  else
    let whole := d.exponent.toNat + 1
    let front := cs.take whole ++ List.replicate (whole - cs.length) '0'
    let back := cs.drop whole
    front ++ ['.'] ++ (if back.isEmpty then ['0'] else back)

/-- The digits in exponent notation: one digit before the point, a signed exponent after `e`. -/
def Decimal.scientific (d : Decimal) (plus : List Char) : List Char :=
  let cs := d.digits.map fun n => Char.ofNat (48 + n)
  let mantissa := match cs with
    | [] => []
    | [c] => [c]
    | c :: rest => c :: '.' :: rest
  let sign := if d.exponent < 0 then ['-'] else plus
  mantissa ++ ['e'] ++ sign ++ Nat.toDigits 10 d.exponent.natAbs

end Shortest
end Rulebook
