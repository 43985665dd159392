import Rulebook.Json.Basic

/-!
# Reading JSON text

`Outline.read` reads the first value of a text into its outline: the value as far as the text is well formed,
with every member of an object in the order of the text, repeated names included. Where the text goes wrong the
outline ends: an array or object stays open there, or a value is broken.

* `Outline.json?` is the value of an intact outline; of a repeated name the last value wins at the first place.
* `Json.read?` reads a text that holds one value and blanks, nothing else.

Arrays and objects may be nested `Outline.nesting` deep; one more stays open and empty.
-/

namespace Rulebook

/-- The outline of a JSON value in a text. -/
inductive Outline where
  | null
  | bool (value : Bool)
  | num (value : Number)
  | str (value : String)
  | arr (items : List Outline) (closed : Bool)
  | obj (members : List (String × Outline)) (closed : Bool)
  | broken
  deriving Inhabited

namespace Outline

/-- How deep arrays and objects may be nested. -/
def nesting : Nat := 127

/-- A blank between tokens. -/
def isBlank (c : Char) : Bool := c = ' ' || c = '\n' || c = '\t' || c = '\r'

/-- The text without its leading blanks. -/
def skipBlanks : List Char → List Char
  | [] => []
  | c :: rest => if isBlank c then skipBlanks rest else c :: rest

/-- The value of a hexadecimal digit of either case. -/
def hexValue? (c : Char) : Option Nat :=
  if '0' ≤ c ∧ c ≤ '9' then some (c.toNat - 48)
  else if 'a' ≤ c ∧ c ≤ 'f' then some (c.toNat - 87)
  else if 'A' ≤ c ∧ c ≤ 'F' then some (c.toNat - 55)
  else none

/-- The value of four hexadecimal digits. -/
def hex4? (a b c d : Char) : Option Nat := do
  return (((← hexValue? a) * 16 + (← hexValue? b)) * 16 + (← hexValue? c)) * 16 + (← hexValue? d)

/-- The character written by a backslash and one letter. -/
def shortEscape? (c : Char) : Option Char :=
  if c = '"' ∨ c = '\\' ∨ c = '/' then some c
  else if c = 'b' then some '\x08'
  else if c = 'f' then some '\x0c'
  else if c = 'n' then some '\n'
  else if c = 'r' then some '\r'
  else if c = 't' then some '\t'
  else none

/-- The first half of a surrogate pair. -/
def isHighSurrogate (n : Nat) : Bool := 0xD800 ≤ n && n < 0xDC00

/-- The second half of a surrogate pair. -/
def isLowSurrogate (n : Nat) : Bool := 0xDC00 ≤ n && n < 0xE000

/-- Reads the rest of a string behind its opening quote. A surrogate half must stand in a pair. -/
def readString : List Char → Option (List Char × List Char)
  | [] => none
  | c :: rest =>
    if c = '"' then some ([], rest)
    else if c = '\\' then
      match rest with
      | [] => none
      | e :: rest =>
        if e = 'u' then
          match rest with
          | h₁ :: h₂ :: h₃ :: h₄ :: rest =>
            match hex4? h₁ h₂ h₃ h₄ with
            | none => none
            | some n =>
              if isLowSurrogate n then none
              else if isHighSurrogate n then
                match rest with
                | '\\' :: 'u' :: l₁ :: l₂ :: l₃ :: l₄ :: rest =>
                  match hex4? l₁ l₂ l₃ l₄ with
                  | none => none
                  | some m =>
                    if isLowSurrogate m then
                      (readString rest).map fun r =>
                        (Char.ofNat (0x10000 + (n - 0xD800) * 0x400 + (m - 0xDC00)) :: r.1, r.2)
                    else none
                | _ => none
              else (readString rest).map fun r => (Char.ofNat n :: r.1, r.2)
          | _ => none
        else
          match shortEscape? e with
          | none => none
          | some x => (readString rest).map fun r => (x :: r.1, r.2)
    else if c.toNat < 0x20 then none
    else (readString rest).map fun r => (c :: r.1, r.2)

/-- What follows a given word, if the text starts with it. -/
def dropWord : List Char → List Char → Option (List Char)
  | [], text => some text
  | _ :: _, [] => none
  | w :: word, c :: text => if w = c then dropWord word text else none

mutual
/-- Reads a value; gives its outline and, when it is intact, what follows. `room` arrays and objects may still
be opened; `fuel` bounds the steps. -/
def readValue (fuel room : Nat) (text : List Char) : Outline × Option (List Char) :=
  match fuel with
  | 0 => (broken, none)
  | fuel + 1 =>
    match skipBlanks text with
    | [] => (broken, none)
    | c :: rest =>
      if c = 'n' then
        match dropWord ['u', 'l', 'l'] rest with
        | some rest => (null, some rest)
        | none => (broken, none)
      else if c = 't' then
        match dropWord ['r', 'u', 'e'] rest with
        | some rest => (bool true, some rest)
        | none => (broken, none)
      else if c = 'f' then
        match dropWord ['a', 'l', 's', 'e'] rest with
        | some rest => (bool false, some rest)
        | none => (broken, none)
      else if c = '"' then
        match readString rest with
        | some (s, rest) => (str (String.ofList s), some rest)
        | none => (broken, none)
      else if c = '[' then
        match room with
        | 0 => (arr [] false, none)
        | room + 1 =>
          let (items, after) := readItems fuel room true rest
          (arr items after.isSome, after)
      else if c = '\x7b' then
        match room with
        | 0 => (obj [] false, none)
        | room + 1 =>
          let (members, after) := readMembers fuel room true rest
          (obj members after.isSome, after)
      else
        match Numeral.read (c :: rest) with
        | none => (broken, none)
        | some (numeral, rest) =>
          match numeral.value with
          | some x => (num x, some rest)
          | none => (broken, none)

/-- Reads the items of an array up to its closing bracket. -/
def readItems (fuel room : Nat) (first : Bool) (text : List Char) : List Outline × Option (List Char) :=
  match fuel with
  | 0 => ([], none)
  | fuel + 1 =>
    match skipBlanks text with
    | [] => ([], none)
    | c :: rest =>
      if c = ']' then ([], some rest)
      else
        let start : Option (List Char) :=
          if first then some (c :: rest)
          else if c = ',' then
            match skipBlanks rest with
            | ']' :: _ => none
            | rest => some rest
          else none
        match start with
        | none => ([], none)
        | some start =>
          match readValue fuel room start with
          | (item, none) => ([item], none)
          | (item, some rest) =>
            let (items, after) := readItems fuel room false rest
            (item :: items, after)

/-- Reads the members of an object up to its closing brace. -/
def readMembers (fuel room : Nat) (first : Bool) (text : List Char) :
    List (String × Outline) × Option (List Char) :=
  match fuel with
  | 0 => ([], none)
  | fuel + 1 =>
    match skipBlanks text with
    | [] => ([], none)
    | c :: rest =>
      if c = '\x7d' then ([], some rest)
      else
        let start : Option (List Char) :=
          if first then some (c :: rest)
          else if c = ',' then some (skipBlanks rest)
          else none
        match start with
        | some ('"' :: rest) =>
          match readString rest with
          | none => ([], none)
          | some (name, rest) =>
            match skipBlanks rest with
            | ':' :: rest =>
              match readValue fuel room rest with
              | (value, none) => ([(String.ofList name, value)], none)
              | (value, some rest) =>
                let (members, after) := readMembers fuel room false rest
                ((String.ofList name, value) :: members, after)
            | _ => ([(String.ofList name, broken)], none)
        | _ => ([], none)
end

/-- The outline of the first value of a text, and what follows it when it is intact. -/
def read (text : List Char) : Outline × Option (List Char) :=
  readValue (2 * text.length + 1) nesting text

mutual
/-- The value of an intact outline. -/
def json? : Outline → Option Json
  | null => some .null
  | bool value => some (.bool value)
  | num value => some (.num value)
  | str value => some (.str value)
  | arr items closed => if closed then (jsonItems? items).map .arr else none
  | obj members closed => if closed then (jsonMembers? members).map fun ms => .obj (Table.ofList ms) else none
  | broken => none

/-- The values of a list of intact outlines. -/
def jsonItems? : List Outline → Option (List Json)
  | [] => some []
  | item :: rest =>
    match json? item, jsonItems? rest with
    | some x, some xs => some (x :: xs)
    | _, _ => none

/-- The members of a list of members with intact outlines, repeated names included. -/
def jsonMembers? : List (String × Outline) → Option (List (String × Json))
  | [] => some []
  | (name, value) :: rest =>
    match json? value, jsonMembers? rest with
    | some x, some xs => some ((name, x) :: xs)
    | _, _ => none
end

end Outline

/-- The value of a text that holds one value and nothing else but blanks. -/
def Json.read? (text : String) : Option Json :=
  match Outline.read text.toList with
  | (outline, some rest) => if Outline.skipBlanks rest = [] then outline.json? else none
  | (_, none) => none

end Rulebook
