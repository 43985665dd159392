import Rulebook.Regex.ClassReader

/-!
# Reading regular expressions

`Tree.read?` reads a whole text as a regular expression, or gives nothing where the text is malformed or nested
more than `Tree.nestingLimit` deep. References to groups and conditions on the surrounding text other than word
and line boundaries are not part of the language.
-/

namespace Rulebook
namespace Regex
namespace Tree

/-- How deep an expression may be nested. -/
def nestingLimit : Nat := 250

/-- The flag of a letter. -/
def flag? (c : Char) : Option Flag :=
  if c = 'i' then some .ignoreCase
  else if c = 'm' then some .multiLine
  else if c = 's' then some .dotAll
  else if c = 'U' then some .swapGreed
  else if c = 'u' then some .unicode
  else if c = 'R' then some .carriage
  else if c = 'x' then some .verbose
  else none

/-- Reads flag letters up to a colon or closing parenthesis: switched on before a hyphen, off behind it. No letter
comes twice, and a hyphen stands once and before a letter. -/
def readFlags (change : FlagChange) (negative : Bool) : List Char → Option (FlagChange × List Char)
  | [] => none
  | c :: rest =>
    if c = ':' ∨ c = ')' then
      if negative ∧ change.off = [] then none else some (change, c :: rest)
    else if c = '-' then
      if negative then none else readFlags change true rest
    else
      match flag? c with
      | none => none
      | some flag =>
        if change.on.contains flag ∨ change.off.contains flag then none
        else if negative then readFlags { change with off := change.off ++ [flag] } negative rest
        else readFlags { change with on := change.on ++ [flag] } negative rest

/-- Whether a character may stand in the name of a group. -/
def isNameChar (first : Bool) (c : Char) : Bool :=
  c == '_' || CharSet.has Property.alphabetic c
    || (!first && (c == '.' || c == '[' || c == ']' || CharSet.has Category.number c))

/-- Reads the name of a group up to its closing angle bracket. -/
def readGroupName (text : List Char) : Option (List Char × List Char) :=
  match text.takeWhile (· != '>'), text.dropWhile (· != '>') with
  | [], _ => none
  | _, [] => none
  | first :: more, _ :: rest =>
    if isNameChar true first && more.all (isNameChar false) then some (first :: more, rest) else none

/-- The opening of a group. -/
inductive Opening where
  | flags (change : FlagChange)
  | named (name : List Char)
  | unnamed
  | plain (change : FlagChange)

/-- Reads the opening of a group behind its parenthesis. -/
def readOpening (verbose : Bool) (text : List Char) : Option (Opening × List Char) :=
  match skip verbose text with
  | '?' :: 'P' :: '<' :: rest => (readGroupName rest).map fun p => (.named p.1, p.2)
  | '?' :: '<' :: '=' :: _ => none
  | '?' :: '<' :: '!' :: _ => none
  | '?' :: '<' :: rest => (readGroupName rest).map fun p => (.named p.1, p.2)
  | '?' :: rest =>
    match readFlags ⟨[], []⟩ false rest with
    | some (change, ')' :: rest) => if change = ⟨[], []⟩ then none else some (.flags change, rest)
    | some (change, _ :: rest) => some (.plain change, rest)
    | _ => none
  | rest => some (.unnamed, rest)

/-- The text behind blanks. -/
def dropSpace (text : List Char) : List Char := text.dropWhile Case.isBlank

/-- Reads the digits of a count; blanks, and comments where these are passed over, may stand between them. -/
def readDigits (verbose : Bool) : Nat → List Char → List Nat × List Char
  | 0, text => ([], text)
  | _, [] => ([], [])
  | fuel + 1, c :: rest =>
    if '0' ≤ c ∧ c ≤ '9' then
      let (ds, rest) := readDigits verbose fuel (skip verbose rest)
      ((c.toNat - 48) :: ds, rest)
    else ([], c :: rest)

/-- The text behind blanks, and behind comments where these are passed over. -/
def dropSpaces (verbose : Bool) : Nat → List Char → List Char
  | 0, text => text
  | _, [] => []
  | fuel + 1, c :: rest => if Case.isBlank c then dropSpaces verbose fuel (skip verbose rest) else c :: rest

/-- Reads a count of a repetition: nothing for a count past 32 bits, an absent one where no digit stands. -/
def readCount (verbose : Bool) (text : List Char) : Option (Option Nat × List Char) :=
  let text := dropSpace text
  let (ds, rest) := readDigits verbose text.length text
  let rest := dropSpaces verbose rest.length rest
  let value := ds.foldl (fun n d => n * 10 + d) 0
  if ds = [] then some (none, rest) else if value < 1 <<< 32 then some (some value, rest) else none

/-- Reads the counts of a repetition behind the opening brace, up to behind the closing one. -/
def readCounts (verbose : Bool) (text : List Char) : Option ((Nat × Option Nat) × List Char) := do
  let text := skip verbose text
  if text = [] then none
  let (low, rest) ← readCount verbose text
  match rest with
  | [] => none
  | ',' :: rest =>
    match skip verbose rest with
    | [] => none
    | '\x7d' :: rest => return ((← low, none), skip verbose rest)
    | rest =>
      let low ← low
      let (high, rest) ← readCount verbose rest
      let high ← high
      match rest with
      | '\x7d' :: rest => if low ≤ high then return ((low, some high), skip verbose rest) else none
      | _ => none
  | '\x7d' :: rest =>
    let low ← low
    return ((low, some low), skip verbose rest)
  | _ => none

/-- The tree of a character or escape outside classes. -/
def ofEscape : Escape → Tree
  | .literal l => literal l
  | .assertion kind => assertion kind
  | .shorthand kind negated => shorthand kind negated
  | .property name negated => property name negated

/-- A repetition of the last of the parts read so far, which are given in reverse; a repetition needs one. -/
def repeatLast (min : Nat) (max : Option Nat) : List Tree → Option (List Tree)
  | [] => none
  | flags _ :: _ => none
  | last :: before => some (repeated last min max :: before)

/-- The text behind the mark of a lazy repetition, if one follows. -/
def dropLazy : List Char → List Char
  | '?' :: rest => rest
  | rest => rest

/-- Reads parts and alternatives up to a closing parenthesis or the end. `names` are the group names in use,
`branches` and `parts` what was read before, in reverse. -/
def readParts (fuel : Nat) (verbose : Bool) (names : List (List Char)) (branches parts : List Tree)
    (text : List Char) : Option (Tree × List (List Char) × List Char) :=
  match fuel with
  | 0 => none
  | fuel + 1 =>
    let done := ofBranches (ofParts parts.reverse :: branches).reverse
    match skip verbose text with
    | [] => some (done, names, [])
    | c :: rest =>
      let next (part : Tree) (rest : List Char) := readParts fuel verbose names branches (part :: parts) rest
      if c = ')' then some (done, names, c :: rest)
      else if c = '|' then readParts fuel verbose names (ofParts parts.reverse :: branches) [] rest
      else if c = '(' then do
        let (opening, rest) ← readOpening verbose rest
        match opening with
        | .flags change =>
          readParts fuel ((change.state? .verbose).getD verbose) names branches (flags change :: parts) rest
        | .named name =>
          if names.contains name then none
          let (sub, names, rest) ← readParts fuel verbose (name :: names) [] [] rest
          match rest with
          | ')' :: rest => readParts fuel verbose names branches (group true ⟨[], []⟩ sub :: parts) rest
          | _ => none
        | .unnamed =>
          let (sub, names, rest) ← readParts fuel verbose names [] [] rest
          match rest with
          | ')' :: rest => readParts fuel verbose names branches (group true ⟨[], []⟩ sub :: parts) rest
          | _ => none
        | .plain change =>
          let (sub, names, rest) ← readParts fuel ((change.state? .verbose).getD verbose) names [] [] rest
          match rest with
          | ')' :: rest => readParts fuel verbose names branches (group false change sub :: parts) rest
          | _ => none
      else if c = '[' then do
        let (negated, content, rest) ← ClassTree.read verbose rest
        next (bracketed negated content) rest
      else if c = '?' then do readParts fuel verbose names branches (← repeatLast 0 (some 1) parts) (dropLazy rest)
      else if c = '*' then do readParts fuel verbose names branches (← repeatLast 0 none parts) (dropLazy rest)
      else if c = '+' then do readParts fuel verbose names branches (← repeatLast 1 none parts) (dropLazy rest)
      else if c = '\x7b' then do
        let ((min, max), rest) ← readCounts verbose rest
        readParts fuel verbose names branches (← repeatLast min max parts) (dropLazy rest)
      else if c = '\\' then do
        let (escape, rest) ← Escape.read verbose rest
        next (ofEscape escape) rest
      else if c = '.' then next dot rest
      else if c = '^' then next (assertion .startLine) rest
      else if c = '$' then next (assertion .endLine) rest
      else next (literal ⟨c, false⟩) rest

/-- Reads a whole text as a regular expression. -/
def read? (text : List Char) : Option Tree :=
  match readParts (text.length + 1) false [] [] [] text with
  | some (tree, _, []) => if tree.nesting ≤ nestingLimit then some tree else none
  | _ => none

end Tree
end Regex
end Rulebook
