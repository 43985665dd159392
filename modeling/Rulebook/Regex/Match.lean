import Rulebook.Regex.Size
import Rulebook.Regex.Reader

/-!
# Matching

A term is matched on all places of a text at once. A marking of a text has one mark for each place between its
characters, the two ends included; `Term.ends` takes the marked places at which a term may start to the places at
which it may then end. It follows the structure of the term: parts in a row compose, alternatives join, and a
repetition repeats the map, as often as it asks or as often as the text has places, whichever is less. More
repetitions than places add nothing: some of them match the empty text, and one of those can be left out or put in.

* `Regex.compile?` reads an expression, and refuses one that is malformed or too large.
* `Regex.isMatch` says whether some part of a text matches.
-/

namespace Rulebook
namespace Regex

/-- One mark for each place of a text. -/
abbrev Marking := List Bool

namespace Marking

/-- The places marked in either marking. -/
def union (a b : Marking) : Marking := a.zipWith (· || ·) b

/-- The places marked in both markings. -/
def inter (a b : Marking) : Marking := a.zipWith (· && ·) b

/-- The places behind a character of the set that stands at a marked place. -/
def advance (set : CharSet) (text : List Char) (marks : Marking) : Marking :=
  false :: marks.zipWith (fun mark c => mark && CharSet.has set c) text

/-- The map applied a number of times; it stops early at a marking that the map keeps. -/
def power (f : Marking → Marking) : Nat → Marking → Marking
  | 0, marks => marks
  | n + 1, marks =>
    let next := f marks
    if next = marks then marks else power f n next

/-- The markings reached by applying the map up to a number of times, all joined. -/
def closure (f : Marking → Marking) : Nat → Marking → Marking
  | 0, marks => marks
  | n + 1, marks =>
    let next := union marks (f marks)
    if next = marks then marks else closure f n next

end Marking

namespace Look

/-- Whether a character, if there is one, makes up words. -/
def isWord (unicode : Bool) : Option Char → Bool
  | some c => if unicode then CharSet.has Class.wordChars c else CharSet.has Class.asciiWord c
  | none => false

/-- Whether the condition holds between two neighbours, of which one is missing at an end of the text. -/
def holds (look : Look) (before after : Option Char) : Bool :=
  match look with
  | start => before == none
  | finish => after == none
  | lineStart => before == none || before == some '\n'
  | lineEnd => after == none || after == some '\n'
  | carriageStart => before == none || before == some '\n' || (before == some '\r' && after != some '\n')
  | carriageEnd => after == none || after == some '\r' || (after == some '\n' && before != some '\r')
  | boundary u => isWord u before != isWord u after
  | inside u => isWord u before == isWord u after
  | wordStart u => !isWord u before && isWord u after
  | wordEnd u => isWord u before && !isWord u after
  | wordStartHalf u => !isWord u before
  | wordEndHalf u => !isWord u after

/-- The places of a text at which the condition holds, `before` being the character in front of it. -/
def places (look : Look) (before : Option Char) : List Char → Marking
  | [] => [holds look before none]
  | c :: rest => holds look before (some c) :: places look (some c) rest

end Look

namespace Term

mutual
/-- The places at which the term may end when it starts at a marked place. -/
def ends (text : List Char) (marks : Marking) : Term → Marking
  | empty => marks
  | chars set => Marking.advance set text marks
  | look condition => Marking.inter marks (condition.places none text)
  | repeated sub min max =>
    let once (m : Marking) := ends text m sub
    let places := text.length + 1
    let first := Marking.power once (Nat.min min places) marks
    match max with
    | none => Marking.closure once places first
    | some max => Marking.closure once (Nat.min (max - min) places) first
  | capture sub => ends text marks sub
  | concat parts => endsParts text marks parts
  | alternation branches => endsBranches text marks branches

/-- The places at which terms in a row may end. -/
def endsParts (text : List Char) (marks : Marking) : List Term → Marking
  | [] => marks
  | term :: rest => endsParts text (ends text marks term) rest

/-- The places at which some of the terms may end. -/
def endsBranches (text : List Char) (marks : Marking) : List Term → Marking
  | [] => marks.map fun _ => false
  | term :: rest => Marking.union (ends text marks term) (endsBranches text marks rest)
end

end Term

/-- The term of an expression, or nothing where it is malformed or too large. -/
def compile? (source : List Char) : Option Term := do
  let tree ← Tree.read? source
  let (term, _) ← tree.term? {}
  if term.fits then some term else none

/-- Whether some part of the text matches. -/
def isMatch (term : Term) (text : List Char) : Bool :=
  (term.ends text (true :: text.map fun _ => true)).any id

end Regex
end Rulebook
