import Rulebook.Json.Outline
import Rulebook.Toml.Basic

/-!
# Numbers, dates and times of TOML documents

* An integer is decimal with a sign, or hexadecimal, octal or binary without; it fits a signed 64-bit word.
* A float has a fraction or an exponent, or is named `inf` or `nan`; one past the largest number is negative.
* Digits may be grouped by single underscores. A decimal number has no leading zero.
* A date is one of the calendar; a time has seconds, and an offset only behind a date.
-/

namespace Rulebook
namespace Toml

/-- Reads further digits, which single underscores may group. -/
def readDigits (digit? : Char → Option Nat) : List Char → Option (List Nat × List Char)
  | [] => some ([], [])
  | '_' :: c :: rest =>
    match digit? c with
    | some d => (readDigits digit? rest).map fun r => (d :: r.1, r.2)
    | none => none
  | c :: rest =>
    match digit? c with
    | some d => (readDigits digit? rest).map fun r => (d :: r.1, r.2)
    | none => if c = '_' then none else some ([], c :: rest)

/-- Reads digits, of which there is at least one. -/
def readSomeDigits (digit? : Char → Option Nat) (text : List Char) : Option (List Nat × List Char) :=
  match text with
  | '_' :: _ => none
  | text =>
    match readDigits digit? text with
    | some ([], _) => none
    | other => other

/-- The value of digits in a base. -/
def digitsIn (base : Nat) (digits : List Nat) : Nat := digits.foldl (fun n d => n * base + d) 0

/-- An integer, if it fits a signed word of 64 bits. -/
def intOf? (value : Int) : Option Toml :=
  if -9223372036854775808 ≤ value ∧ value < 9223372036854775808 then some (int value) else none

/-- The digit of a base. -/
def digitOf? (base : Nat) (c : Char) : Option Nat := (Outline.hexValue? c).filter (· < base)

/-- Reads an integer in a base behind its mark. -/
def readBased (base : Nat) (text : List Char) : Option (Toml × List Char) := do
  let (digits, rest) ← readSomeDigits (digitOf? base) text
  return (← intOf? (digitsIn base digits), rest)

/-- Reads the whole digits of a decimal number: a zero alone, or digits that do not start with it. -/
def readWhole : List Char → Option (List Nat × List Char)
  | '0' :: rest => some ([0], rest)
  | text => readSomeDigits Numeral.digit? text

/-- Reads an exponent, if its letter follows. -/
def readPower : List Char → Option (Option Int × List Char)
  | [] => some (none, [])
  | c :: rest =>
    if c = 'e' ∨ c = 'E' then
      let (negative, rest) : Bool × List Char := match rest with
        | '+' :: rest => (false, rest)
        | '-' :: rest => (true, rest)
        | rest => (false, rest)
      (readSomeDigits Numeral.digit? rest).map fun r =>
        let value : Int := digitsIn 10 r.1
        (some (if negative then -value else value), r.2)
    else some (none, c :: rest)

/-- Reads a fraction, if its point follows. -/
def readPlaces : List Char → Option (Option (List Nat) × List Char)
  | '.' :: rest => (readSomeDigits Numeral.digit? rest).map fun r => (some r.1, r.2)
  | rest => some (none, rest)

/-- The number `digits * 10 ^ power` rounded to the nearest float, if that is finite. -/
def floatOf? (negative : Bool) (digits : List Nat) (power : Int) : Option Binary64 :=
  let word := digitsIn 10 digits
  if word = 0 ∨ power + digits.length < -400 then some (Binary64.zero negative)
  else if 400 < power + (Nat.toDigits 10 word).length then none
  else if 0 ≤ power then Binary64.ofRatio negative (word * Nat.pow 10 power.toNat) 1
  else Binary64.ofRatio negative word (Nat.pow 10 (-power).toNat)

/-- The float of digits and a power of ten; past the largest one only a negative number is allowed. -/
def floatValue? (negative : Bool) (digits : List Nat) (power : Int) : Option Toml :=
  match floatOf? negative digits power with
  | some value => some (float value)
  | none => if negative then some (special "-inf") else none

/-- Reads a decimal number behind its sign. -/
def readDecimal (negative : Bool) (text : List Char) : Option (Toml × List Char) := do
  let (whole, rest) ← readWhole text
  let (places, rest) ← readPlaces rest
  let (power, rest) ← readPower rest
  match places, power with
  | none, none =>
    let value : Int := digitsIn 10 whole
    return (← intOf? (if negative then -value else value), rest)
  | places, power =>
    let digits := places.getD []
    return (← floatValue? negative (whole ++ digits) (power.getD 0 - digits.length), rest)

/-- Reads a number behind its sign: a decimal one, or one that is named. -/
def readSigned (negative : Bool) (text : List Char) : Option (Toml × List Char) :=
  match text with
  | 'i' :: 'n' :: 'f' :: rest => some (special (if negative then "-inf" else "inf"), rest)
  | 'n' :: 'a' :: 'n' :: rest => some (special "nan", rest)
  | text => readDecimal negative text

/-- Reads a number. -/
def readNumber : List Char → Option (Toml × List Char)
  | '0' :: 'x' :: rest => readBased 16 rest
  | '0' :: 'o' :: rest => readBased 8 rest
  | '0' :: 'b' :: rest => readBased 2 rest
  | '+' :: rest => readSigned false rest
  | '-' :: rest => readSigned true rest
  | text => readSigned false text

/-! ## Dates and times -/

/-- Reads exactly two digits, of a number within bounds. -/
def readPair (low high : Nat) : List Char → Option (Nat × List Char)
  | a :: b :: rest =>
    match Numeral.digit? a, Numeral.digit? b with
    | some x, some y => if low ≤ 10 * x + y ∧ 10 * x + y ≤ high then some (10 * x + y, rest) else none
    | _, _ => none
  | _ => none

/-- What follows a given character. -/
def dropChar (c : Char) : List Char → Option (List Char)
  | d :: rest => if c = d then some rest else none
  | [] => none

/-- The number of days of a month. -/
def daysOf (year month : Nat) : Nat :=
  if month = 2 then if year % 4 = 0 ∧ (year % 100 ≠ 0 ∨ year % 400 = 0) then 29 else 28
  else if month = 4 ∨ month = 6 ∨ month = 9 ∨ month = 11 then 30
  else 31

/-- Passes over a date. -/
def skipDate (text : List Char) : Option (List Char) := do
  let (century, rest) ← readPair 0 99 text
  let (year, rest) ← readPair 0 99 rest
  let (month, rest) ← readPair 1 12 (← dropChar '-' rest)
  let (_, rest) ← readPair 1 (daysOf (100 * century + year) month) (← dropChar '-' rest)
  return rest

/-- Passes over the fraction of a second, if there is one. -/
def skipFraction : List Char → List Char
  | '.' :: d :: rest => if d.isDigit then rest.dropWhile Char.isDigit else '.' :: d :: rest
  | rest => rest

/-- Passes over a time. -/
def skipTime (text : List Char) : Option (List Char) := do
  let (_, rest) ← readPair 0 23 text
  let (_, rest) ← readPair 0 59 (← dropChar ':' rest)
  let (_, rest) ← readPair 0 60 (← dropChar ':' rest)
  return skipFraction rest

/-- Passes over an offset, if there is one. -/
def skipOffset (text : List Char) : List Char :=
  let hours (rest : List Char) : Option (List Char) := do
    let (_, rest) ← readPair 0 23 rest
    let (_, rest) ← readPair 0 59 (← dropChar ':' rest)
    return rest
  match text with
  | 'Z' :: rest => rest
  | 'z' :: rest => rest
  | '+' :: rest => (hours rest).getD text
  | '-' :: rest => (hours rest).getD text
  | _ => text

/-- Passes over a date, a time, or both. -/
def skipMoment (text : List Char) : Option (List Char) :=
  match skipDate text with
  | none => skipTime text
  | some (c :: rest) =>
    if c = 'T' ∨ c = 't' ∨ c = ' ' then
      match skipTime rest with
      | some rest => some (skipOffset rest)
      | none => some (c :: rest)
    else some (c :: rest)
  | some [] => some []

/-- Reads a date, a time, or both. -/
def readMoment (text : List Char) : Option (Toml × List Char) :=
  (skipMoment text).map fun rest => (moment (String.ofList (text.take (text.length - rest.length))), rest)

end Toml
end Rulebook
