import Rulebook.Json.Basic

/-!
# Written forms of JSON values

* `Json.chars` is the compact form, without any blank; `Json.compact` is the same as a string.
* `Json.prettyChars` puts every item and member on a line of its own, indented by two blanks a level; an empty
  array or object stays on one line.

Strings are written raw but for quotes, backslashes and characters below U+0020.
-/

namespace Rulebook
namespace Json

/-- A hexadecimal digit, in lower case. -/
def hexDigit (n : Nat) : Char := if n < 10 then Char.ofNat (48 + n) else Char.ofNat (87 + n)

/-- A character inside a quoted string. -/
def escaped (c : Char) : List Char :=
  if c = '"' then ['\\', '"']
  else if c = '\\' then ['\\', '\\']
  else if c.toNat < 0x20 then
    if c.toNat = 0x08 then ['\\', 'b']
    else if c.toNat = 0x09 then ['\\', 't']
    else if c.toNat = 0x0a then ['\\', 'n']
    else if c.toNat = 0x0c then ['\\', 'f']
    else if c.toNat = 0x0d then ['\\', 'r']
    else ['\\', 'u', '0', '0', hexDigit (c.toNat / 16), hexDigit (c.toNat % 16)]
  else [c]

/-- A quoted string. -/
def quoted (s : String) : List Char := '"' :: (s.toList.flatMap escaped ++ ['"'])

mutual
/-- The compact form of a value. -/
def chars : Json → List Char
  | null => ['n', 'u', 'l', 'l']
  | bool true => ['t', 'r', 'u', 'e']
  | bool false => ['f', 'a', 'l', 's', 'e']
  | num x => x.text
  | str s => quoted s
  | arr items => '[' :: (charsItems items ++ [']'])
  | obj members => '\x7b' :: (charsMembers members ++ ['\x7d'])

/-- The items of an array, separated by commas. -/
def charsItems : List Json → List Char
  | [] => []
  | [item] => chars item
  | item :: rest => chars item ++ ',' :: charsItems rest

/-- The members of an object, separated by commas. -/
def charsMembers : List (String × Json) → List Char
  | [] => []
  | [(name, value)] => quoted name ++ ':' :: chars value
  | (name, value) :: rest => quoted name ++ ':' :: (chars value ++ ',' :: charsMembers rest)
end

/-- The compact form of a value, as a string. -/
def compact (value : Json) : String := String.ofList (chars value)

/-- A line break and the indentation of a level. -/
def newline (level : Nat) : List Char := '\n' :: List.replicate (2 * level) ' '

mutual
/-- The indented form of a value that stands at the given level. -/
def prettyChars (level : Nat) : Json → List Char
  | arr [] => ['[', ']']
  | arr items => '[' :: (prettyItems (level + 1) items ++ newline level ++ [']'])
  | obj [] => ['\x7b', '\x7d']
  | obj members => '\x7b' :: (prettyMembers (level + 1) members ++ newline level ++ ['\x7d'])
  | value => chars value

/-- The items of an array, each on a line of its own. -/
def prettyItems (level : Nat) : List Json → List Char
  | [] => []
  | [item] => newline level ++ prettyChars level item
  | item :: rest => newline level ++ prettyChars level item ++ ',' :: prettyItems level rest

/-- The members of an object, each on a line of its own. -/
def prettyMembers (level : Nat) : List (String × Json) → List Char
  | [] => []
  | [(name, value)] => newline level ++ quoted name ++ [':', ' '] ++ prettyChars level value
  | (name, value) :: rest =>
    newline level ++ quoted name ++ [':', ' '] ++ prettyChars level value ++ ',' :: prettyMembers level rest
end

/-- The indented form of a value, as a string. -/
def pretty (value : Json) : String := String.ofList (prettyChars 0 value)

end Json
end Rulebook
