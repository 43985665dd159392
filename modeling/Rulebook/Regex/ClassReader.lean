import Rulebook.Regex.Tree
import Rulebook.Unicode.Case
import Rulebook.Unicode.Category

/-!
# Reading escapes and bracketed classes

Readers take the rest of a text and whether blanks and comments are to be passed over (`verbose`), and give what
they read with the text behind it, or nothing where the text is malformed.

* `Escape.read` reads what follows a backslash.
* `ClassTree.read` reads a bracketed class.
-/

namespace Rulebook
namespace Regex

/-- The text from the next line on. -/
def dropLine : List Char → List Char
  | [] => []
  | c :: rest => if c = '\n' then rest else dropLine rest

/-- The text behind blanks and comments; `fuel` bounds the number of them. -/
def dropBlanks : Nat → List Char → List Char
  | 0, text => text
  | _, [] => []
  | fuel + 1, c :: rest =>
    if Case.isBlank c then dropBlanks fuel rest
    else if c = '#' then dropBlanks fuel (dropLine rest)
    else c :: rest

/-- The text behind blanks and comments, where these are passed over. -/
def skip (verbose : Bool) (text : List Char) : List Char :=
  if verbose then dropBlanks text.length text else text

/-- What an escape stands for. -/
inductive Escape where
  | literal (l : Literal)
  | assertion (kind : Assertion)
  | shorthand (kind : Shorthand) (negated : Bool)
  | property (name : PropertyName) (negated : Bool)

namespace Escape

/-- Whether a character has a meaning of its own in regular expressions. -/
def isMeta (c : Char) : Bool := "\\.+*?()|[]\x7b\x7d^$#&-~".toList.contains c

/-- Whether a backslash may stand before a character that then means itself. -/
def isPlain (c : Char) : Bool :=
  isMeta c || (c.toNat < 128 && !c.isAlphanum && c != '<' && c != '>')

/-- The value of a hexadecimal digit of either case. -/
def hexValue? (c : Char) : Option Nat :=
  if '0' ≤ c ∧ c ≤ '9' then some (c.toNat - 48)
  else if 'a' ≤ c ∧ c ≤ 'f' then some (c.toNat - 87)
  else if 'A' ≤ c ∧ c ≤ 'F' then some (c.toNat - 55)
  else none

/-- The character with a code, if there is one. -/
def charOf? (n : Nat) : Option Char := if h : n.isValidChar then some (Char.ofNatAux n h) else none

/-- Reads a code of exactly `count` more digits. -/
def readFixed (verbose : Bool) : Nat → Nat → List Char → Option (Nat × List Char)
  | 0, value, text => some (value, text)
  | count + 1, value, text =>
    match text with
    | [] => none
    | c :: rest => do readFixed verbose count (value * 16 + (← hexValue? c)) (skip verbose rest)

/-- Reads the digits of a code up to a closing brace; `fuel` bounds their number. -/
def readBraced (verbose : Bool) : Nat → List Nat → List Char → Option (List Nat × List Char)
  | 0, _, _ => none
  | fuel + 1, digits, text =>
    match skip verbose text with
    | [] => none
    | c :: rest =>
      if c = '\x7d' then some (digits.reverse, rest)
      else do readBraced verbose fuel ((← hexValue? c) :: digits) rest

/-- Reads a character code behind its letter: braced, or of the letter's number of digits. -/
def readCode (verbose : Bool) (digits : Nat) (text : List Char) : Option (Literal × List Char) :=
  match skip verbose text with
  | [] => none
  | '\x7b' :: rest => do
    let (ds, rest) ← readBraced verbose (rest.length + 1) [] rest
    if ds = [] then none
    let value := ds.foldl (fun n d => n * 16 + d) 0
    return (⟨← charOf? value, false⟩, skip verbose rest)
  | text => do
    let (value, rest) ← readFixed verbose digits 0 text
    return (⟨← charOf? value, digits == 2⟩, rest)

/-- The text up to a closing brace and the text behind it. -/
def readName (verbose : Bool) : Nat → List Char → List Char → Option (List Char × List Char)
  | 0, _, _ => none
  | fuel + 1, name, text =>
    match skip verbose text with
    | [] => none
    | c :: rest => if c = '\x7d' then some (name.reverse, rest) else readName verbose fuel (c :: name) rest

/-- Splits a text at the first occurrence of a separator. -/
def splitAt? (separator : List Char) : List Char → Option (List Char × List Char)
  | [] => none
  | c :: rest =>
    if separator.isPrefixOf (c :: rest) then some ([], (c :: rest).drop separator.length)
    else (splitAt? separator rest).map fun p => (c :: p.1, p.2)

/-- The name in a property class: a plain one, or a property and its value. -/
def propertyName (name : List Char) : PropertyName :=
  let valued (p : List Char × List Char) := PropertyName.valued (String.ofList p.1) (String.ofList p.2)
  match splitAt? ['!', '='] name, splitAt? [':'] name, splitAt? ['='] name with
  | some p, _, _ => valued p
  | none, some p, _ => valued p
  | none, none, some p => valued p
  | none, none, none => .plain (String.ofList name)

/-- Reads a property class behind its letter: one letter or a braced name. -/
def readProperty (verbose : Bool) (text : List Char) : Option (PropertyName × List Char) :=
  match skip verbose text with
  | [] => none
  | '\x7b' :: rest => do
    let (name, rest) ← readName verbose (rest.length + 1) [] rest
    return (propertyName name, rest)
  | c :: rest => if c = '\\' then none else some (.plain (String.singleton c), skip verbose rest)

/-- The letters and hyphens at the front of a text, and the text behind them. -/
def spanWord (verbose : Bool) : Nat → List Char → List Char × List Char
  | 0, text => ([], text)
  | _, [] => ([], [])
  | fuel + 1, c :: rest =>
    if c.isAlpha || c = '-' then
      let (word, rest) := spanWord verbose fuel (skip verbose rest)
      (c :: word, rest)
    else ([], c :: rest)

/-- Reads the kind of a word boundary behind its letter. A brace that does not start a word is left alone. -/
def readBoundary (verbose : Bool) (text : List Char) : Option (Assertion × List Char) :=
  match text with
  | '\x7b' :: inner =>
    match skip verbose inner with
    | [] => none
    | c :: rest =>
      if c.isAlpha || c = '-' then
        match spanWord verbose (c :: rest).length (c :: rest) with
        | (word, '\x7d' :: rest) =>
          if word = "start".toList then some (.wordStart, rest)
          else if word = "end".toList then some (.wordEnd, rest)
          else if word = "start-half".toList then some (.wordStartHalf, rest)
          else if word = "end-half".toList then some (.wordEndHalf, rest)
          else none
        | _ => none
      else some (.wordBoundary, text)
  | _ => some (.wordBoundary, text)

/-- The control characters with a letter of their own. -/
def control? (c : Char) : Option Char :=
  if c = 'a' then some '\x07'
  else if c = 'f' then some '\x0c'
  else if c = 't' then some '\t'
  else if c = 'n' then some '\n'
  else if c = 'r' then some '\r'
  else if c = 'v' then some '\x0b'
  else none

/-- Reads what follows a backslash. -/
def read (verbose : Bool) : List Char → Option (Escape × List Char)
  | [] => none
  | c :: rest =>
    let fixed (digits : Nat) := (readCode verbose digits rest).map fun p => (literal p.1, p.2)
    let named (negated : Bool) := (readProperty verbose rest).map fun p => (property p.1 negated, p.2)
    if c = 'x' then fixed 2
    else if c = 'u' then fixed 4
    else if c = 'U' then fixed 8
    else if c = 'p' then named false
    else if c = 'P' then named true
    else if c = 'd' then some (shorthand .digit false, rest)
    else if c = 's' then some (shorthand .space false, rest)
    else if c = 'w' then some (shorthand .word false, rest)
    else if c = 'D' then some (shorthand .digit true, rest)
    else if c = 'S' then some (shorthand .space true, rest)
    else if c = 'W' then some (shorthand .word true, rest)
    else if isPlain c then some (literal ⟨c, false⟩, rest)
    else if c = 'A' then some (assertion .startText, rest)
    else if c = 'z' then some (assertion .endText, rest)
    else if c = 'b' then (readBoundary verbose rest).map fun p => (assertion p.1, p.2)
    else if c = 'B' then some (assertion .notWordBoundary, rest)
    else if c = '<' then some (assertion .wordStart, rest)
    else if c = '>' then some (assertion .wordEnd, rest)
    else (control? c).map fun x => (literal ⟨x, false⟩, rest)

end Escape

namespace ClassTree

/-- The class of ASCII characters with a name. -/
def asciiNamed? (name : String) : Option AsciiClass :=
  [("alnum", AsciiClass.alnum), ("alpha", .alpha), ("ascii", .ascii), ("blank", .blank), ("cntrl", .cntrl),
    ("digit", .digit), ("graph", .graph), ("lower", .lower), ("print", .print), ("punct", .punct),
    ("space", .space), ("upper", .upper), ("word", .word), ("xdigit", .xdigit)].lookup name

/-- Reads a named ASCII class behind its opening bracket, if there is one. -/
def readAscii? : List Char → Option (ClassTree × List Char)
  | ':' :: rest =>
    let (negated, rest) : Bool × List Char := match rest with
      | '^' :: r => (true, r)
      | r => (false, r)
    match rest.dropWhile (· != ':') with
    | ':' :: ']' :: after =>
      (asciiNamed? (String.ofList (rest.takeWhile (· != ':')))).map fun name => (ascii name negated, after)
    | _ => none
  | _ => none

/-- Reads a single item of a class: an escape or a character. -/
def readItem (verbose : Bool) : List Char → Option (Escape × List Char)
  | [] => none
  | '\\' :: rest => Escape.read verbose rest
  | c :: rest => some (.literal ⟨c, false⟩, rest)

/-- The item that an escape is in a class; conditions on places are none. -/
def ofEscape? : Escape → Option ClassTree
  | .literal l => some (literal l)
  | .shorthand kind negated => some (shorthand kind negated)
  | .property name negated => some (property name negated)
  | .assertion _ => none

/-- The next character, which blanks put off where these are passed over. The mark of a comment counts as a blank, so
the next character may be one of the comment. -/
def peek? (verbose : Bool) (text : List Char) : Option Char :=
  if verbose then
    match text.dropWhile Case.isBlank with
    | '#' :: comment => (comment.dropWhile Case.isBlank).head?
    | rest => rest.head?
  else text.head?

/-- Reads an item or a range of a class. A hyphen before a closing bracket or another hyphen makes no range. -/
def readRange (verbose : Bool) (text : List Char) : Option (ClassTree × List Char) := do
  let (first, rest) ← readItem verbose text
  match skip verbose rest with
  | [] => none
  | '-' :: tail =>
    if peek? verbose tail = some ']' ∨ peek? verbose tail = some '-' then return (← ofEscape? first, '-' :: tail)
    let (second, rest) ← readItem verbose (skip verbose tail)
    match first, second with
    | .literal a, .literal b => if a.char ≤ b.char then some (range a b, rest) else none
    | _, _ => none
  | rest => return (← ofEscape? first, rest)

/-- The hyphens at the front of a text, as items, and the text behind them. -/
def readHyphens (verbose : Bool) : Nat → List Char → List ClassTree × List Char
  | 0, text => ([], text)
  | fuel + 1, text =>
    match text with
    | '-' :: rest =>
      let (items, rest) := readHyphens verbose fuel (skip verbose rest)
      (literal ⟨'-', false⟩ :: items, rest)
    | text => ([], text)

/-- Reads the opening of a class behind its bracket: a negation, then hyphens or a closing bracket that stand for
themselves. The class must go on. -/
def readOpening (verbose : Bool) (text : List Char) : Option (Bool × List ClassTree × List Char) :=
  let text := skip verbose text
  let (negated, text) : Bool × List Char := match text with
    | '^' :: rest => (true, skip verbose rest)
    | text => (false, text)
  match readHyphens verbose text.length text with
  | (_, []) => none
  | ([], ']' :: rest) =>
    match skip verbose rest with
    | [] => none
    | rest => some (negated, [literal ⟨']', false⟩], rest)
  | (items, rest) => some (negated, items, rest)

/-- A set with the operation that waits for its right side, if one does. -/
def finish (pending : Option (SetOperation × ClassTree)) (items : List ClassTree) : ClassTree :=
  match pending with
  | none => ofItems items.reverse
  | some (operation, left) => combined operation left (ofItems items.reverse)

/-- Reads the rest of a class up to its closing bracket. Operations bind alike and to the left. -/
def readRest (verbose : Bool) (fuel : Nat) (pending : Option (SetOperation × ClassTree)) (items : List ClassTree)
    (text : List Char) : Option (ClassTree × List Char) :=
  match fuel with
  | 0 => none
  | fuel + 1 =>
    match skip verbose text with
    | [] => none
    | '[' :: rest =>
      match readAscii? rest with
      | some (item, rest) => readRest verbose fuel pending (item :: items) rest
      | none => do
        let (negated, first, rest) ← readOpening verbose rest
        let (content, rest) ← readRest verbose fuel none first.reverse rest
        readRest verbose fuel pending (bracketed negated content :: items) rest
    | ']' :: rest => some (finish pending items, rest)
    | '&' :: '&' :: rest => readRest verbose fuel (some (.intersection, finish pending items)) [] rest
    | '-' :: '-' :: rest => readRest verbose fuel (some (.difference, finish pending items)) [] rest
    | '~' :: '~' :: rest => readRest verbose fuel (some (.symmetricDifference, finish pending items)) [] rest
    | text => do
      let (item, rest) ← readRange verbose text
      readRest verbose fuel pending (item :: items) rest

/-- Reads a class behind its opening bracket: whether it is negated, and its content. -/
def read (verbose : Bool) (text : List Char) : Option (Bool × ClassTree × List Char) := do
  let (negated, first, rest) ← readOpening verbose text
  let (content, rest) ← readRest verbose (text.length + 1) none first.reverse rest
  return (negated, content, rest)

end ClassTree

end Regex
end Rulebook
