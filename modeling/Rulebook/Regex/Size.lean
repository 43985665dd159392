import Rulebook.Regex.Term

/-!
# Size of compiled expressions

An expression is refused when the automaton that it stands for takes more than `Term.sizeLimit` bytes, read in
either direction. A state takes 32 bytes; a state that branches takes 4 more for each way on, and a state that
chooses by ranges of bytes takes 8 more for each range.

A set of characters becomes an automaton over the bytes of their UTF-8 forms. Read forwards, equal suffixes are
shared; read backwards, equal beginnings are shared and every byte range is a state of its own.
-/

namespace Rulebook
namespace Regex

/-- Ranges of bytes, one for each byte of a form. -/
abbrev ByteRanges := List (Nat × Nat)

namespace ByteRanges

/-- The bytes of a code point in UTF-8. -/
def encode (n : Nat) : List Nat :=
  if n < 0x80 then [n]
  else if n < 0x800 then [0xC0 + n / 0x40, 0x80 + n % 0x40]
  else if n < 0x10000 then [0xE0 + n / 0x1000, 0x80 + n / 0x40 % 0x40, 0x80 + n % 0x40]
  else [0xF0 + n / 0x40000, 0x80 + n / 0x1000 % 0x40, 0x80 + n / 0x40 % 0x40, 0x80 + n % 0x40]

/-- A place at which a range of code points has to be cut so that the parts are products of byte ranges. -/
def cut? (low high : Nat) : Option Nat :=
  let lengthCut := [0x7F, 0x7FF, 0xFFFF].find? fun last => low ≤ last && last < high
  match lengthCut with
  | some last => some last
  | none =>
    if high < 0x80 then none
    else
      [0x40, 0x1000, 0x40000].findSome? fun block =>
        if low / block = high / block then none
        else if low % block ≠ 0 then some (low / block * block + (block - 1))
        else if high % block ≠ block - 1 then some (high / block * block - 1)
        else none

/-- The byte ranges whose products are the forms of a range of code points; `fuel` bounds the cuts in a row. -/
def ofRange : Nat → Nat → Nat → List ByteRanges
  | 0, low, high => [(encode low).zip (encode high)]
  | fuel + 1, low, high =>
    match cut? low high with
    | none => [(encode low).zip (encode high)]
    | some last => ofRange fuel low last ++ ofRange fuel (last + 1) high

/-- The byte ranges of a set, in increasing order. -/
def ofSet (set : CharSet) : List ByteRanges :=
  set.flatMap fun r => (CharSet.withoutSurrogates r.1 r.2).flatMap fun q => ofRange 64 q.1 q.2

end ByteRanges

/-- The states shared by the forms of a set: each is the list of its ways on, with the number of the state that
each leads to; the state with number 0 is the end. -/
abbrev Shared := List (List (Nat × Nat × Nat))

namespace Shared

/-- The number of a state, which is added if it is new. -/
def number (states : Shared) (state : List (Nat × Nat × Nat)) : Nat × Shared :=
  match states.reverse.findIdx? (· == state) with
  | some i => (i + 1, states)
  | none => (states.length + 1, state :: states)

/-- Adds the states for sorted forms that have the given number of bytes left at most; gives the number of the
state that they start from. -/
def add : Nat → List ByteRanges → Shared → Nat × Shared
  | 0, _, states => (0, states)
  | fuel + 1, forms, states =>
    if forms.all List.isEmpty then (0, states)
    else
      let heads := (forms.filterMap List.head?).eraseDups
      let step (acc : List (Nat × Nat × Nat) × Shared) (head : Nat × Nat) :=
        let tails := (forms.filter fun f => f.head? == some head).map List.tail
        let (n, states) := add fuel tails acc.2
        (acc.1 ++ [(head.1, head.2, n)], states)
      let (state, states) := heads.foldl step ([], states)
      number states state

end Shared

namespace Term

/-- How many bytes the automaton may take. -/
def sizeLimit : Nat := 10 <<< 20

/-- Bytes of the automaton of a set, read forwards. -/
def setForward (set : CharSet) : Nat :=
  match set with
  | [] => 32
  | [(a, b)] =>
    if a = b then 32 * (ByteRanges.encode a).length
    else if b < 128 then 72
    else forms set
  | _ => if CharSet.isAscii set then 64 + 8 * set.length else forms set
where
  /-- Bytes of the shared states of a set with members outside ASCII. -/
  forms (set : CharSet) : Nat :=
    let states := (Shared.add 4 (ByteRanges.ofSet set) []).2
    states.foldl (fun n state => n + 32 + 8 * state.length) 32

/-- Bytes of the automaton of a set, read backwards. -/
def setBackward (set : CharSet) : Nat :=
  match set with
  | [] => 32
  | [(a, b)] =>
    if a = b then 32 * (ByteRanges.encode a).length
    else if b < 128 then 72
    else forms set
  | _ => if CharSet.isAscii set then 64 + 8 * set.length else forms set
where
  /-- Bytes of the states of a set with members outside ASCII: one for each beginning of a form. -/
  forms (set : CharSet) : Nat :=
    let seqs := ByteRanges.ofSet set
    let beginnings := seqs.foldl (fun (acc : Nat × ByteRanges) form =>
      let shared := ((form.zip acc.2).takeWhile fun p => p.1 == p.2).length
      (acc.1 + (form.length - shared), form)) (0, [])
    64 + 32 * beginnings.1 + 4 * seqs.length

mutual
/-- Whether the term can match without any character. -/
def nullable : Term → Bool
  | empty => true
  | chars _ => false
  | look _ => true
  | repeated sub min _ => min == 0 || nullable sub
  | capture sub => nullable sub
  | concat parts => nullableAll parts
  | alternation branches => nullableAny branches

/-- Whether all terms can match without any character. -/
def nullableAll : List Term → Bool
  | [] => true
  | term :: rest => nullable term && nullableAll rest

/-- Whether some term can match without any character. -/
def nullableAny : List Term → Bool
  | [] => false
  | term :: rest => nullable term || nullableAny rest
end

mutual
/-- Whether the term matches nothing but the empty text. -/
def onlyEmpty : Term → Bool
  | empty => true
  | chars _ => false
  | look _ => true
  | repeated sub _ max => max == some 0 || onlyEmpty sub
  | capture sub => onlyEmpty sub
  | concat parts => onlyEmptyAll parts
  | alternation branches => onlyEmptyAll branches

/-- Whether all terms match nothing but the empty text. -/
def onlyEmptyAll : List Term → Bool
  | [] => true
  | term :: rest => onlyEmpty term && onlyEmptyAll rest
end

/-- The union of the sets of branches that are all sets of characters. -/
def charsOnly? : List Term → Option CharSet
  | [] => some []
  | chars set :: rest => (charsOnly? rest).map (CharSet.union set)
  | _ => none

/-- Bytes of a repetition of a part that takes the given bytes. -/
def repeatedSize (part : Nat) (nullable : Bool) (min : Nat) (max : Option Nat) : Nat :=
  match max with
  | none => if min = 0 then (if nullable then part + 108 else part + 40) else min * part + 40
  | some max =>
    if max = 0 then 32
    else if min = 0 ∧ max = 1 then part + 72
    else if min = max then min * part
    else (if min = 0 then 32 else min * part) + 32 + (max - min) * (part + 40)

mutual
/-- Bytes of the automaton of a term, read in a direction. -/
def size (backward : Bool) : Term → Nat
  | empty => 32
  | chars set => if backward then setBackward set else setForward set
  | look _ => 32
  | repeated sub min max =>
    let (min, max) := if onlyEmpty sub then (Nat.min min 1, some (Nat.min (max.getD 1) 1)) else (min, max)
    repeatedSize (size backward sub) (nullable sub) min max
  | capture sub => size backward sub + (if backward then 0 else 64)
  | concat parts => Nat.max 32 (sizeParts backward parts)
  | alternation branches =>
    match charsOnly? branches with
    | some set => if backward then setBackward set else setForward set
    | none => 64 + sizeBranches backward branches

/-- Bytes of terms in a row; empty ones vanish. -/
def sizeParts (backward : Bool) : List Term → Nat
  | [] => 0
  | empty :: rest => sizeParts backward rest
  | term :: rest => size backward term + sizeParts backward rest

/-- Bytes of alternatives, with the way on to each. -/
def sizeBranches (backward : Bool) : List Term → Nat
  | [] => 0
  | term :: rest => size backward term + 4 + sizeBranches backward rest
end

/-- Whether the automaton of the term fits the limit in both directions, with the states around it. -/
def fits (term : Term) : Bool :=
  size false term + 296 ≤ sizeLimit && size true term + 296 ≤ sizeLimit

end Term
end Regex
end Rulebook
