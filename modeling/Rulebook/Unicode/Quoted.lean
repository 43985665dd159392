import Rulebook.Unicode.Category
import Rulebook.Unicode.Property

/-!
# Quoted texts in messages

`Quoted.quote` writes a text between double quotes so that each character can be told: quotes, backslashes and the
usual controls by a letter, and every character without a shape of its own by its code in braces.
-/

namespace Rulebook
namespace Quoted

/-- Whether a character has a shape of its own: no control, format or private character, no separator but the
blank, and none that extends the character before it. -/
def isPlain (c : Char) : Bool :=
  if c.toNat < 128 then decide (32 ≤ c.toNat ∧ c.toNat < 127)
  else !(CharSet.has Category.other c || CharSet.has Category.separator c || CharSet.has Property.graphemeExtend c)

/-- The written form of a character. -/
def escape (c : Char) : List Char :=
  if c.toNat = 0 then ['\\', '0']
  else if c = '\t' then ['\\', 't']
  else if c = '\r' then ['\\', 'r']
  else if c = '\n' then ['\\', 'n']
  else if c = '\\' then ['\\', '\\']
  else if c = '"' then ['\\', '"']
  else if isPlain c then [c]
  else ['\\', 'u', '\x7b'] ++ Nat.toDigits 16 c.toNat ++ ['\x7d']

/-- The text between double quotes. -/
def quote (text : String) : String := String.ofList ('"' :: (text.toList.flatMap escape ++ ['"']))

end Quoted
end Rulebook
