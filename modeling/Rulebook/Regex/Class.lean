import Rulebook.Regex.Tree
import Rulebook.Unicode.Case
import Rulebook.Unicode.Category
import Rulebook.Unicode.Script

/-!
# Classes of characters

What the classes of a regular expression hold, as sets of characters. Classes are resolved in one of two modes:
over all characters, or over single bytes, of which only the ASCII ones can be matched in a text.

* `Class.shorthand`, `Class.ascii` and `Class.property?` are the named classes.
* `ClassTree.resolve?` is a bracketed class. Case is closed over before a negation and before an operation.
-/

namespace Rulebook
namespace Regex

/-- The flags in force at a place of an expression. -/
structure Mode where
  ignoreCase : Bool := false
  multiLine : Bool := false
  dotAll : Bool := false
  unicode : Bool := true
  carriage : Bool := false

/-- The mode after a change of flags. -/
def Mode.after (mode : Mode) (change : FlagChange) : Mode where
  ignoreCase := (change.state? .ignoreCase).getD mode.ignoreCase
  multiLine := (change.state? .multiLine).getD mode.multiLine
  dotAll := (change.state? .dotAll).getD mode.dotAll
  unicode := (change.state? .unicode).getD mode.unicode
  carriage := (change.state? .carriage).getD mode.carriage

namespace Class

/-- The characters of words: letters, marks, digits, connectors and join controls. -/
def wordChars : CharSet :=
  CharSet.ofRanges (Property.alphabetic ++ Category.mark ++ Category.decimalNumber ++ Category.connectorPunctuation
    ++ Property.joinControl)

/-- The code points of a text of ASCII characters and ranges, given as pairs. -/
def codes (pairs : List (Char × Char)) : CharSet := CharSet.ofRanges (pairs.map fun p => (p.1.toNat, p.2.toNat))

/-- The ASCII characters of words. -/
def asciiWord : CharSet := codes [('0', '9'), ('A', 'Z'), ('_', '_'), ('a', 'z')]

/-- The named classes of ASCII characters. -/
def ascii : AsciiClass → CharSet
  | .alnum => codes [('0', '9'), ('A', 'Z'), ('a', 'z')]
  | .alpha => codes [('A', 'Z'), ('a', 'z')]
  | .ascii => [(0, 127)]
  | .blank => codes [('\t', '\t'), (' ', ' ')]
  | .cntrl => [(0, 31), (127, 127)]
  | .digit => codes [('0', '9')]
  | .graph => codes [('!', '~')]
  | .lower => codes [('a', 'z')]
  | .print => codes [(' ', '~')]
  | .punct => codes [('!', '/'), (':', '@'), ('[', '\x60'), ('\x7b', '~')]
  | .space => [(9, 13), (32, 32)]
  | .upper => codes [('A', 'Z')]
  | .word => asciiWord
  | .xdigit => codes [('0', '9'), ('A', 'F'), ('a', 'f')]

/-- The classes with a one-letter escape, over all characters or over ASCII ones. -/
def shorthand (unicode : Bool) : Shorthand → CharSet
  | .digit => if unicode then Category.decimalNumber else ascii .digit
  | .space => if unicode then Property.whiteSpace else ascii .space
  | .word => if unicode then wordChars else asciiWord

/-- A name in lower case, without blanks, hyphens, underscores, other than ASCII characters, and a leading `is`. -/
def normalName (name : String) : String :=
  let strip (cs : List Char) : List Char :=
    (cs.filter fun c => c.toNat < 128 && c != ' ' && c != '_' && c != '-').map Char.toLower
  match name.toList with
  | a :: b :: rest =>
    if a.toLower = 'i' ∧ b.toLower = 's' then
      if strip rest = ['c'] then "isc" else String.ofList (strip rest)
    else String.ofList (strip (a :: b :: rest))
  | cs => String.ofList (strip cs)

/-- The class of a property name. A plain name is a property, a general category or a script. -/
def property? : PropertyName → Option CharSet
  | .plain name =>
    let n := normalName name
    let asProperty := if n = "cf" ∨ n = "sc" ∨ n = "lc" then none else Property.named? n
    match asProperty, Category.named? n with
    | some set, _ => some set
    | none, some set => some set
    | none, none => Script.named? n
  | .valued property value =>
    let p := normalName property
    let v := normalName value
    if p = "gc" ∨ p = "generalcategory" then Category.named? v
    else if p = "sc" ∨ p = "script" then Script.named? v
    else if p = "scx" ∨ p = "scriptextensions" then Script.extended? v
    else none

/-- The members of the mode's alphabet that are not in the set. -/
def complement (mode : Mode) (set : CharSet) : CharSet :=
  if mode.unicode then CharSet.complement set
  else (CharSet.complement set).filterMap fun r => if r.1 < 256 then some (r.1, min r.2 255) else none

/-- The set with every member's other case. -/
def closeCase (mode : Mode) (set : CharSet) : CharSet :=
  if mode.unicode then Case.closeFold set
  else
    CharSet.ofRanges (set ++ (List.range 26).flatMap fun i =>
      (if CharSet.hasCode set (65 + i) then [(97 + i, 97 + i)] else [])
        ++ (if CharSet.hasCode set (97 + i) then [(65 + i, 65 + i)] else []))

/-- The set, closed over case where case is ignored, and then negated where asked. -/
def closed (mode : Mode) (negated : Bool) (set : CharSet) : CharSet :=
  let set := if mode.ignoreCase then closeCase mode set else set
  if negated then complement mode set else set

/-- The set of a shorthand. Single bytes outside ASCII cannot be matched. -/
def shorthand? (mode : Mode) (kind : Shorthand) (negated : Bool) : Option CharSet :=
  if mode.unicode then
    some (if negated then CharSet.complement (shorthand true kind) else shorthand true kind)
  else if negated then none
  else some (shorthand false kind)

/-- The set of a property class, which needs the mode over all characters. -/
def propertySet? (mode : Mode) (name : PropertyName) (negated : Bool) : Option CharSet :=
  if mode.unicode then (property? name).map (closed mode negated) else none

/-- The code of a literal in a class: over bytes an ASCII character. -/
def literalCode? (mode : Mode) (l : Literal) : Option Nat :=
  if mode.unicode || l.char.toNat < 128 then some l.char.toNat else none

/-- The set of a class, closed and negated as asked; over bytes it has to be one of ASCII characters. -/
def closed? (mode : Mode) (negated : Bool) (set : CharSet) : Option CharSet :=
  let set := closed mode negated set
  if mode.unicode || CharSet.isAscii set then some set else none

/-- An operation on sets, over the mode's alphabet. -/
def combine (mode : Mode) (operation : SetOperation) (left right : CharSet) : CharSet :=
  let neg := complement mode
  let inter (a b : CharSet) := neg (CharSet.union (neg a) (neg b))
  match operation with
  | .intersection => inter left right
  | .difference => inter left (neg right)
  | .symmetricDifference => inter (CharSet.union left right) (neg (inter left right))

end Class

namespace ClassTree

mutual
/-- The set of a class tree, or nothing where it is not allowed in the mode. -/
def resolve? (mode : Mode) : ClassTree → Option CharSet
  | empty => some []
  | literal l => (Class.literalCode? mode l).map fun n => [(n, n)]
  | range low high =>
    match Class.literalCode? mode low, Class.literalCode? mode high with
    | some a, some b => some [(a, b)]
    | _, _ => none
  | ascii name negated => Class.closed? mode negated (Class.ascii name)
  | shorthand kind negated => Class.shorthand? mode kind negated
  | property name negated => Class.propertySet? mode name negated
  | bracketed negated content =>
    match resolve? mode content with
    | none => none
    | some set => Class.closed? mode negated set
  | union items => resolveItems? mode items
  | combined operation left right =>
    match resolve? mode left, resolve? mode right with
    | some a, some b =>
      let close (set : CharSet) := if mode.ignoreCase then Class.closeCase mode set else set
      some (Class.combine mode operation (close a) (close b))
    | _, _ => none

/-- The union of the sets of a list of class trees. -/
def resolveItems? (mode : Mode) : List ClassTree → Option CharSet
  | [] => some []
  | item :: rest =>
    match resolve? mode item, resolveItems? mode rest with
    | some a, some b => some (CharSet.union a b)
    | _, _ => none
end

end ClassTree

end Regex
end Rulebook
