import Rulebook.Json.Outline

/-!
# Strings and keys of TOML documents

A string is basic, with escapes, or literal, without; each of the two may also run over several lines between three
quotes. A key is a bare word or a string on one line, and a dotted key a sequence of them.

Readers take what a text starts with and give what follows it.
-/

namespace Rulebook
namespace Toml

/-- A blank within a line. -/
def isSpace (c : Char) : Bool := c = ' ' || c = '\t'

/-- Whether a character may stand within a line: a tab, or anything that is no control. -/
def isPrintable (c : Char) : Bool := c = '\t' || (0x20 ≤ c.toNat && c.toNat != 0x7F)

/-- What follows the blanks of a line. -/
def skipSpaces (text : List Char) : List Char := text.dropWhile isSpace

/-- What follows a line break. -/
def newline? : List Char → Option (List Char)
  | '\n' :: rest => some rest
  | '\r' :: '\n' :: rest => some rest
  | _ => none

/-- What follows a line break, if there is one. -/
def skipNewline (text : List Char) : List Char := (newline? text).getD text

/-- What follows blanks and line breaks. -/
def skipBreaks : List Char → List Char
  | '\r' :: '\n' :: rest => skipBreaks rest
  | c :: rest => if isSpace c || c = '\n' then skipBreaks rest else c :: rest
  | [] => []

/-- The character with a code in hexadecimal digits. -/
def charOfHex? (digits : List Char) : Option Char := do
  let values ← digits.mapM Outline.hexValue?
  let code := values.foldl (fun n d => n * 16 + d) 0
  if code < 0xD800 ∨ (0xDFFF < code ∧ code < 0x110000) then some (Char.ofNat code) else none

/-- Reads what follows the backslash of an escape. -/
def readEscape : List Char → Option (Char × List Char)
  | 'u' :: a :: b :: c :: d :: rest => (charOfHex? [a, b, c, d]).map fun x => (x, rest)
  | 'U' :: a :: b :: c :: d :: e :: f :: g :: h :: rest =>
    (charOfHex? [a, b, c, d, e, f, g, h]).map fun x => (x, rest)
  | 'b' :: rest => some (Char.ofNat 8, rest)
  | 't' :: rest => some ('\t', rest)
  | 'n' :: rest => some ('\n', rest)
  | 'f' :: rest => some (Char.ofNat 12, rest)
  | 'r' :: rest => some ('\r', rest)
  | '"' :: rest => some ('"', rest)
  | '\\' :: rest => some ('\\', rest)
  | _ => none

/-- Puts a character in front of what was read. -/
def consRead (c : Char) (read : Option (List Char × List Char)) : Option (List Char × List Char) :=
  read.map fun r => (c :: r.1, r.2)

/-- Reads a basic string behind its quote; `fuel` bounds the steps. -/
def readBasic : Nat → List Char → Option (List Char × List Char)
  | 0, _ => none
  | _, [] => none
  | fuel + 1, c :: rest =>
    if c = '"' then some ([], rest)
    else if c = '\\' then
      match readEscape rest with
      | some (x, rest) => consRead x (readBasic fuel rest)
      | none => none
    else if isPrintable c then consRead c (readBasic fuel rest)
    else none

/-- Reads a literal string behind its quote. -/
def readLiteral : List Char → Option (List Char × List Char)
  | [] => none
  | c :: rest => if c = '\'' then some ([], rest) else if isPrintable c then consRead c (readLiteral rest) else none

/-- The quotes of a string over several lines that stand in front of the closing ones, at most two. -/
def lastQuotes (quote : Char) : List Char → List Char × List Char
  | a :: b :: rest =>
    if a = quote then if b = quote then ([a, b], rest) else ([a], b :: rest) else ([], a :: b :: rest)
  | [a] => if a = quote then ([a], []) else ([], [a])
  | [] => ([], [])

/-- Reads a basic string over several lines behind its quotes. A backslash at the end of a line drops the break and
the blanks behind it. -/
def readLongBasic : Nat → List Char → Option (List Char × List Char)
  | 0, _ => none
  | _, [] => none
  | fuel + 1, c :: rest =>
    match c, rest with
    | '"', '"' :: '"' :: rest => some (lastQuotes '"' rest)
    | '\r', '\n' :: rest => consRead '\n' (readLongBasic fuel rest)
    | '\\', rest =>
      match newline? (skipSpaces rest) with
      | some rest => readLongBasic fuel (skipBreaks rest)
      | none =>
        match readEscape rest with
        | some (x, rest) => consRead x (readLongBasic fuel rest)
        | none => none
    | c, rest => if c = '\n' || isPrintable c then consRead c (readLongBasic fuel rest) else none

/-- Reads a literal string over several lines behind its quotes. -/
def readLongLiteral : List Char → Option (List Char × List Char)
  | [] => none
  | '\'' :: '\'' :: '\'' :: rest => some (lastQuotes '\'' rest)
  | '\r' :: '\n' :: rest => consRead '\n' (readLongLiteral rest)
  | c :: rest => if c = '\n' || isPrintable c then consRead c (readLongLiteral rest) else none

/-- Reads a string. -/
def readText : List Char → Option (List Char × List Char)
  | '"' :: '"' :: '"' :: rest => readLongBasic (rest.length + 1) (skipNewline rest)
  | '"' :: rest => readBasic (rest.length + 1) rest
  | '\'' :: '\'' :: '\'' :: rest => readLongLiteral (skipNewline rest)
  | '\'' :: rest => readLiteral rest
  | _ => none

/-- Whether a character may stand in a bare key. -/
def isBare (c : Char) : Bool := c.isAlphanum || c = '-' || c = '_'

/-- Reads one part of a key. -/
def readKeyPart (text : List Char) : Option (String × List Char) :=
  match text with
  | '"' :: rest => (readBasic (rest.length + 1) rest).map fun r => (String.ofList r.1, r.2)
  | '\'' :: rest => (readLiteral rest).map fun r => (String.ofList r.1, r.2)
  | _ =>
    match text.takeWhile isBare with
    | [] => none
    | word => some (String.ofList word, text.dropWhile isBare)

/-- Reads a dotted key of at most `room` parts. -/
def readKey : Nat → List Char → Option (List String × List Char)
  | 0, _ => none
  | room + 1, text =>
    match readKeyPart (skipSpaces text) with
    | none => none
    | some (part, rest) =>
      match skipSpaces rest with
      | '.' :: rest => (readKey room rest).map fun r => (part :: r.1, r.2)
      | rest => some ([part], rest)

end Toml
end Rulebook
