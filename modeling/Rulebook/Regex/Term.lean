import Rulebook.Regex.Class

/-!
# Terms

A term is a regular expression with its flags resolved: sets of characters, conditions on places, and the ways to
put terms together. Whether a repetition is greedy does not matter to whether a text matches, so it is not kept.

`Tree.term?` resolves the flags of a tree from left to right; a group ends the changes made in it. It gives
nothing where a part cannot match text, such as a single byte outside ASCII.
-/

namespace Rulebook
namespace Regex

/-- Conditions on a place between characters. `unicode` says which characters make up words. -/
inductive Look where
  | start
  | finish
  | lineStart
  | lineEnd
  | carriageStart
  | carriageEnd
  | boundary (unicode : Bool)
  | inside (unicode : Bool)
  | wordStart (unicode : Bool)
  | wordEnd (unicode : Bool)
  | wordStartHalf (unicode : Bool)
  | wordEndHalf (unicode : Bool)
  deriving DecidableEq

/-- A regular expression with its flags resolved. -/
inductive Term where
  | empty
  | chars (set : CharSet)
  | look (condition : Look)
  | repeated (sub : Term) (min : Nat) (max : Option Nat)
  | capture (sub : Term)
  | concat (parts : List Term)
  | alternation (branches : List Term)
  deriving Inhabited

namespace Tree

/-- The condition of an assertion. -/
def look (mode : Mode) : Assertion → Look
  | .startLine => if mode.multiLine then (if mode.carriage then .carriageStart else .lineStart) else .start
  | .endLine => if mode.multiLine then (if mode.carriage then .carriageEnd else .lineEnd) else .finish
  | .startText => .start
  | .endText => .finish
  | .wordBoundary => .boundary mode.unicode
  | .notWordBoundary => .inside mode.unicode
  | .wordStart => .wordStart mode.unicode
  | .wordEnd => .wordEnd mode.unicode
  | .wordStartHalf => .wordStartHalf mode.unicode
  | .wordEndHalf => .wordEndHalf mode.unicode

/-- The set of a character outside classes. Without Unicode only the case of ASCII letters is ignored. -/
def literalSet? (mode : Mode) (l : Literal) : Option CharSet :=
  if !mode.unicode && l.byteForm && 128 ≤ l.char.toNat then none
  else if mode.ignoreCase && (mode.unicode || l.char.toNat < 128) then
    some (Class.closeCase mode (CharSet.single l.char))
  else some (CharSet.single l.char)

/-- The set of the dot: all but line ends, or all. -/
def dotSet? (mode : Mode) : Option CharSet :=
  if !mode.unicode then none
  else if mode.dotAll then some CharSet.all
  else if mode.carriage then some (CharSet.complement [(10, 10), (13, 13)])
  else some (CharSet.complement [(10, 10)])

mutual
/-- The term of a tree in a mode, and the mode behind it. -/
def term? (mode : Mode) : Tree → Option (Term × Mode)
  | empty => some (.empty, mode)
  | flags change => some (.empty, mode.after change)
  | literal l => (literalSet? mode l).map fun set => (.chars set, mode)
  | dot => (dotSet? mode).map fun set => (.chars set, mode)
  | assertion kind => some (.look (look mode kind), mode)
  | shorthand kind negated => (Class.shorthand? mode kind negated).map fun set => (.chars set, mode)
  | property name negated => (Class.propertySet? mode name negated).map fun set => (.chars set, mode)
  | bracketed negated content =>
    (ClassTree.resolve? mode (.bracketed negated content)).map fun set => (.chars set, mode)
  | repeated sub min max => (term? mode sub).map fun p => (.repeated p.1 min max, p.2)
  | group capturing change sub =>
    (term? (mode.after change) sub).map fun p => (if capturing then .capture p.1 else p.1, mode)
  | alternation branches => (terms? mode branches).map fun p => (.alternation p.1, p.2)
  | concat parts => (terms? mode parts).map fun p => (.concat p.1, p.2)

/-- The terms of a list of trees, each in the mode behind the one before it. -/
def terms? (mode : Mode) : List Tree → Option (List Term × Mode)
  | [] => some ([], mode)
  | tree :: rest =>
    match term? mode tree with
    | none => none
    | some (term, mode) => (terms? mode rest).map fun p => (term :: p.1, p.2)
end

end Tree

end Regex
end Rulebook
