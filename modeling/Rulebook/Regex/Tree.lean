/-!
# Trees of regular expressions

The tree of a regular expression as it is written. What a flag means to the parts behind it is not resolved yet;
`Regex.Term` is the tree with flags resolved.
-/

namespace Rulebook
namespace Regex

/-- The flags that a regular expression can set for the parts behind it. -/
inductive Flag where
  | ignoreCase
  | multiLine
  | dotAll
  | swapGreed
  | unicode
  | carriage
  | verbose
  deriving DecidableEq

/-- Flags that are switched on and off together. -/
structure FlagChange where
  on : List Flag
  off : List Flag
  deriving DecidableEq

/-- What a change says about a flag, if anything. -/
def FlagChange.state? (change : FlagChange) (flag : Flag) : Option Bool :=
  if change.on.contains flag then some true
  else if change.off.contains flag then some false
  else none

/-- A single character, and whether it is written by its two-digit code. -/
structure Literal where
  char : Char
  byteForm : Bool := false
  deriving DecidableEq

/-- The classes with a one-letter escape. -/
inductive Shorthand where
  | digit
  | space
  | word
  deriving DecidableEq

/-- The classes of ASCII characters that have a name in brackets. -/
inductive AsciiClass where
  | alnum | alpha | ascii | blank | cntrl | digit | graph | lower | print | punct | space | upper | word | xdigit
  deriving DecidableEq

/-- How a property class is named: by one name, or by a property and its value. -/
inductive PropertyName where
  | plain (name : String)
  | valued (property value : String)
  deriving DecidableEq

/-- The operations between sets in brackets. -/
inductive SetOperation where
  | intersection
  | difference
  | symmetricDifference
  deriving DecidableEq

/-- What stands between brackets. -/
inductive ClassTree where
  | empty
  | literal (l : Literal)
  | range (low high : Literal)
  | ascii (name : AsciiClass) (negated : Bool)
  | shorthand (kind : Shorthand) (negated : Bool)
  | property (name : PropertyName) (negated : Bool)
  | bracketed (negated : Bool) (content : ClassTree)
  | union (items : List ClassTree)
  | combined (operation : SetOperation) (left right : ClassTree)

/-- Conditions on a place between characters, as they are written. -/
inductive Assertion where
  | startLine
  | endLine
  | startText
  | endText
  | wordBoundary
  | notWordBoundary
  | wordStart
  | wordEnd
  | wordStartHalf
  | wordEndHalf
  deriving DecidableEq

/-- A regular expression as it is written. -/
inductive Tree where
  | empty
  | flags (change : FlagChange)
  | literal (l : Literal)
  | dot
  | assertion (kind : Assertion)
  | shorthand (kind : Shorthand) (negated : Bool)
  | property (name : PropertyName) (negated : Bool)
  | bracketed (negated : Bool) (content : ClassTree)
  | repeated (sub : Tree) (min : Nat) (max : Option Nat)
  | group (capturing : Bool) (change : FlagChange) (sub : Tree)
  | alternation (branches : List Tree)
  | concat (parts : List Tree)
  deriving Inhabited

namespace ClassTree

/-- The tree of a list of items: none, the only one, or their union. -/
def ofItems : List ClassTree → ClassTree
  | [] => empty
  | [item] => item
  | items => union items

mutual
/-- How deep unions, operations and brackets are nested. -/
def nesting : ClassTree → Nat
  | bracketed _ content => nesting content + 1
  | union items => nestingItems items + 1
  | combined _ left right => max (nesting left) (nesting right) + 1
  | _ => 0

/-- The deepest of a list of items. -/
def nestingItems : List ClassTree → Nat
  | [] => 0
  | item :: rest => max (nesting item) (nestingItems rest)
end

end ClassTree

namespace Tree

/-- The tree of parts in a row: none, the only one, or all of them. -/
def ofParts : List Tree → Tree
  | [] => empty
  | [part] => part
  | parts => concat parts

/-- The tree of alternatives: the only one or all of them. -/
def ofBranches : List Tree → Tree
  | [branch] => branch
  | branches => alternation branches

mutual
/-- How deep the tree is nested. -/
def nesting : Tree → Nat
  | bracketed _ content => content.nesting + 1
  | repeated sub _ _ => nesting sub + 1
  | group _ _ sub => nesting sub + 1
  | alternation branches => nestingAll branches + 1
  | concat parts => nestingAll parts + 1
  | _ => 0

/-- The deepest of a list of trees. -/
def nestingAll : List Tree → Nat
  | [] => 0
  | tree :: rest => max (nesting tree) (nestingAll rest)
end

end Tree

end Regex
end Rulebook
