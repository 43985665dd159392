import Rulebook.Text.Pieces

/-!
# Sets of characters

A set of characters is a list of inclusive ranges of code points, in increasing order and neither touching nor
overlapping. `CharSet.ofRanges` brings any list of ranges into that form; union, complement, intersection and
difference are built on it. Code points of surrogates stand for no character and belong to no complement.

`CharSet.decode` reads the written form that the tables of this library use: ranges separated by blanks, each
the distance from the end of the range before it and, when the range has more than one member, a colon and the
number of further members; numbers are in base 36.
-/

namespace Rulebook

/-- Inclusive ranges of code points, increasing and apart. -/
abbrev CharSet := List (Nat × Nat)

namespace CharSet

/-- Joins ranges that are sorted by their start. -/
def joinSorted : List (Nat × Nat) → CharSet
  | [] => []
  | r :: rest => go r rest
where
  /-- Joins the ranges that follow into a current one. -/
  go (current : Nat × Nat) : List (Nat × Nat) → CharSet
    | [] => [current]
    | next :: rest =>
      if next.1 ≤ current.2 + 1 then go (current.1, max current.2 next.2) rest else current :: go next rest

/-- Merges two lists of ranges that are sorted by their start; `fuel` bounds the steps. -/
def merge : Nat → List (Nat × Nat) → List (Nat × Nat) → List (Nat × Nat)
  | 0, a, b => a ++ b
  | _, [], b => b
  | _, a, [] => a
  | fuel + 1, r :: a, q :: b => if r.1 ≤ q.1 then r :: merge fuel a (q :: b) else q :: merge fuel (r :: a) b

/-- Sorts ranges by their start; `fuel` bounds how often a list is halved. -/
def sort : Nat → List (Nat × Nat) → List (Nat × Nat)
  | 0, ranges => ranges
  | _, [] => []
  | _, [r] => [r]
  | fuel + 1, ranges =>
    let half := ranges.length / 2
    merge ranges.length (sort fuel (ranges.take half)) (sort fuel (ranges.drop half))

/-- The set of the members of any list of ranges. -/
def ofRanges (ranges : List (Nat × Nat)) : CharSet :=
  joinSorted (sort ranges.length (ranges.filter fun r => decide (r.1 ≤ r.2)))

/-- The set of one character. -/
def single (c : Char) : CharSet := [(c.toNat, c.toNat)]

/-- Whether a code point is a member. -/
def hasCode (set : CharSet) (n : Nat) : Bool := set.any fun r => decide (r.1 ≤ n ∧ n ≤ r.2)

/-- Whether a character is a member. -/
def has (set : CharSet) (c : Char) : Bool := hasCode set c.toNat

/-- The members of either set. -/
def union (a b : CharSet) : CharSet := ofRanges (a ++ b)

/-- The parts of a range outside the surrogates. -/
def withoutSurrogates (low high : Nat) : CharSet :=
  [(low, min high 0xD7FF), (max low 0xE000, high)].filter fun r => decide (r.1 ≤ r.2)

/-- The characters from a code point up that are in none of the ranges. -/
def gapsFrom (low : Nat) : CharSet → CharSet
  | [] => withoutSurrogates low 0x10FFFF
  | (a, b) :: rest => (if low < a then withoutSurrogates low (a - 1) else []) ++ gapsFrom (b + 1) rest

/-- The characters that are not members. -/
def complement (set : CharSet) : CharSet := gapsFrom 0 set

/-- The members of both sets. -/
def inter (a b : CharSet) : CharSet := complement (union (complement a) (complement b))

/-- The members of the first set that are not in the second. -/
def diff (a b : CharSet) : CharSet := complement (union (complement a) b)

/-- The members of exactly one of the sets. -/
def symmDiff (a b : CharSet) : CharSet := diff (union a b) (inter a b)

/-- Whether every member is an ASCII character. -/
def isAscii (set : CharSet) : Bool := set.all fun r => decide (r.2 < 128)

/-- Every character. -/
def all : CharSet := [(0, 0xD7FF), (0xE000, 0x10FFFF)]

/-! ## Written forms of tables -/

/-- The value of a base 36 digit. -/
def digit36 (c : Char) : Nat := if c.toNat < 58 then c.toNat - 48 else c.toNat - 87

/-- The value of a base 36 number. -/
def number36 (cs : List Char) : Nat := cs.foldl (fun n c => n * 36 + digit36 c) 0

/-- Ranges of a written form, each counted from the code point after the one before it. -/
def decodeFrom (start : Nat) : List (List Char) → CharSet
  | [] => []
  | token :: rest =>
    match Text.pieces ':' token with
    | [gap] => let a := start + number36 gap; (a, a) :: decodeFrom (a + 1) rest
    | [gap, extra] =>
      let a := start + number36 gap
      let b := a + number36 extra
      (a, b) :: decodeFrom (b + 1) rest
    | _ => decodeFrom start rest

/-- The words of a line. -/
def tokens (line : String) : List (List Char) := Text.pieces ' ' line.toList

/-- The set of a written form. -/
def decode (lines : List String) : CharSet := decodeFrom 0 (lines.flatMap tokens)

/-- The value of a base 36 number that may be negative. -/
def signed36 : List Char → Int
  | '-' :: rest => -(number36 rest : Int)
  | rest => number36 rest

/-- The pairs of a written run `start:count:step:offset`: `count` code points from `start`, `step` apart, each
with the code point `offset` further on. -/
def decodeRun (token : List Char) : List (Nat × Nat) :=
  match Text.pieces ':' token with
  | [start, count, step, offset] =>
    (List.range (number36 count)).map fun i =>
      let n := number36 start + i * number36 step
      (n, ((n : Int) + signed36 offset).toNat)
  | _ => []

/-- The pairs of lines of written runs. -/
def decodeRuns (lines : List String) : List (Nat × Nat) := lines.flatMap fun line => (tokens line).flatMap decodeRun

end CharSet

end Rulebook
