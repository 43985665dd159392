import Rulebook.Decimal.Shortest

/-!
# Numbers of JSON documents

A number is an integer that fits a signed or an unsigned 64-bit word, or a finite binary64 number; which of the
two is decided by the way it is written, and the two are never equal.

* `Numeral.read` reads the grammar of JSON numbers: sign, whole digits without a leading zero, fraction, exponent.
* `Numeral.value` gives a numeral its value. Digits are collected while they fit an unsigned 64-bit word, later
  whole digits only raise the exponent and later fraction digits are dropped; the collected word is rounded and
  then scaled by one rounded power of ten.
* `Number.text` writes the shortest digits that read back, with a point or an exponent on every float.
-/

namespace Rulebook

/-- A JSON number: an integer of 64 bits, signed or unsigned, or a finite float. -/
inductive Number where
  | int (value : Int) (fits : -9223372036854775808 ≤ value ∧ value < 18446744073709551616)
  | float (value : Binary64)
  deriving DecidableEq

namespace Number

/-- Equality of numbers: an integer never equals a float, and both float zeros are equal. -/
def same : Number → Number → Bool
  | .int a _, .int b _ => a == b
  | .float a, .float b => a.same b
  | _, _ => false

/-- The integer with the given value, if it fits. -/
def ofInt? (value : Int) : Option Number :=
  if h : -9223372036854775808 ≤ value ∧ value < 18446744073709551616 then some (.int value h) else none

/-- Floats between `10 ^ -5` and `10 ^ 16` are written positionally, all others with a signed exponent. -/
def floatText (x : Binary64) : List Char :=
  let d := Shortest.decimal x
  let body := if -5 ≤ d.exponent ∧ d.exponent ≤ 15 then d.positional else d.scientific ['+']
  if x.negative then '-' :: body else body

/-- The written form of a number. -/
def text : Number → List Char
  | .int value _ => if value < 0 then '-' :: Nat.toDigits 10 value.natAbs else Nat.toDigits 10 value.natAbs
  | .float x => floatText x

/-- Every number is equal to itself. -/
@[simp] theorem same_self (x : Number) : x.same x = true := by
  cases x <;> simp [same]

end Number

/-- A written number: its sign, whole digits, fraction digits and signed exponent digits. -/
structure Numeral where
  negative : Bool
  whole : List Nat
  fraction : Option (List Nat)
  exponent : Option (Bool × List Nat)
  deriving DecidableEq

namespace Numeral

/-- The value of a decimal digit. -/
def digit? (c : Char) : Option Nat := if '0' ≤ c ∧ c ≤ '9' then some (c.toNat - 48) else none

/-- The leading decimal digits and what follows them. -/
def spanDigits : List Char → List Nat × List Char
  | [] => ([], [])
  | c :: rest =>
    match digit? c with
    | some d => (d :: (spanDigits rest).1, (spanDigits rest).2)
    | none => ([], c :: rest)

/-- The fraction, if a point follows; a point needs a digit behind it. -/
def readFraction : List Char → Option (Option (List Nat) × List Char)
  | '.' :: rest =>
    match spanDigits rest with
    | ([], _) => none
    | (ds, rest) => some (some ds, rest)
  | rest => some (none, rest)

/-- The exponent, if its letter follows; the letter needs a digit behind it, after an optional sign. -/
def readExponent : List Char → Option (Option (Bool × List Nat) × List Char)
  | [] => some (none, [])
  | c :: rest =>
    if c = 'e' ∨ c = 'E' then
      let (negative, digits) : Bool × List Char := match rest with
        | '+' :: r => (false, r)
        | '-' :: r => (true, r)
        | r => (false, r)
      match spanDigits digits with
      | ([], _) => none
      | (ds, rest) => some (some (negative, ds), rest)
    else some (none, c :: rest)

/-- Reads a number from the front of a text. -/
def read (cs : List Char) : Option (Numeral × List Char) :=
  let (negative, body) : Bool × List Char := match cs with
    | '-' :: r => (true, r)
    | r => (false, r)
  match spanDigits body with
  | ([], _) => none
  | (0 :: _ :: _, _) => none
  | (whole, rest) => do
    let (fraction, rest) ← readFraction rest
    let (exponent, rest) ← readExponent rest
    return (⟨negative, whole, fraction, exponent⟩, rest)

/-- Appends digits to a word while they fit; gives the word and the digits left over. -/
def collect : Nat → List Nat → Nat × List Nat
  | word, [] => (word, [])
  | word, d :: ds => if word * 10 + d < 1 <<< 64 then collect (word * 10 + d) ds else (word, d :: ds)

/-- The value of a run of digits. -/
def digitsValue (ds : List Nat) : Nat := ds.foldl (fun n d => n * 10 + d) 0

/-- Divides by powers of ten down to the given exponent, at most `10 ^ 308` at a time, stopping at zero. -/
def scaleDown : Nat → Binary64 → Nat → Option Binary64
  | 0, x, _ => some (.zero x.negative)
  | fuel + 1, x, k =>
    if k ≤ 308 then x.overTen k
    else if x.rank = 0 then some x
    else do scaleDown fuel (← x.overTen 308) (k - 308)

/-- A word times a power of ten, rounded once for the word and once for each scaling step; none past the
largest number. Three steps reach zero from any word. -/
def scale (word : Nat) (exponent : Int) : Option Binary64 := do
  let x ← Binary64.ofNat? word
  if 0 ≤ exponent then
    if exponent ≤ 308 then x.timesTen exponent.toNat
    else if x.rank = 0 then some x else none
  else scaleDown 4 x (-exponent).toNat

/-- The float value: none past the largest number. An exponent past 31 bits leaves only a zero or nothing. -/
def floatValue (n : Numeral) : Option Binary64 := do
  let (word, extra) := collect 0 n.whole
  let (word, spare) := collect word (n.fraction.getD [])
  let shift : Int := (extra.length : Int) - ((n.fraction.getD []).length - spare.length : Nat)
  let x ← match n.exponent with
    | none => scale word shift
    | some (down, ds) =>
      let e := digitsValue ds
      if e < 1 <<< 31 then scale word (if down then shift - e else shift + e)
      else if word = 0 ∨ down then some (.zero false)
      else none
  return x.withSign n.negative

/-- The value of a numeral: an integer when it has neither fraction nor exponent and fits, a float otherwise.
A negative zero is a float. -/
def value (n : Numeral) : Option Number :=
  match n.fraction, n.exponent with
  | none, none =>
    let v := digitsValue n.whole
    if n.negative ∧ v = 0 then some (.float (.zero true))
    else
      match Number.ofInt? (if n.negative then -(v : Int) else v) with
      | some x => some x
      | none => n.floatValue.map .float
  | _, _ => n.floatValue.map .float

end Numeral

end Rulebook
