import Rulebook.Glob.Basic

/-!
# Matching paths by globs

A path is matched byte by byte as a whole. `GlobPart.rests` gives what may be left of a text when a part has taken
something from its front; a glob accepts a path when nothing may be left.
-/

namespace Rulebook

namespace Glob

/-- The bytes of a character. -/
def bytesOf (c : Char) : List Nat := (String.utf8EncodeChar c).map UInt8.toNat

/-- The bytes of a text. -/
def bytes (text : String) : List Nat := text.toList.flatMap bytesOf

/-- The byte of a slash. -/
def slash : Nat := 0x2F

/-- What follows a given front, if the text starts with it. -/
def dropFront : List Nat → List Nat → Option (List Nat)
  | [], text => some text
  | _ :: _, [] => none
  | b :: front, c :: text => if b = c then dropFront front text else none

/-- What is left behind any front, or, where it stops at slashes, behind any front without one. -/
def tails (stops : Bool) : List Nat → List (List Nat)
  | [] => [[]]
  | b :: rest => (b :: rest) :: (if stops && b = slash then [] else tails stops rest)

/-- What is left behind each slash. -/
def behindSlashes : List Nat → List (List Nat)
  | [] => []
  | b :: rest => if b = slash then rest :: behindSlashes rest else behindSlashes rest

/-- The ranges of bytes that a range of characters stands for: the bytes of both ends, and all between the last of
the first and the first of the last. -/
def byteRanges (range : Char × Char) : List (Nat × Nat) :=
  let low := bytesOf range.1
  let high := bytesOf range.2
  let singles (bs : List Nat) := bs.map fun b => (b, b)
  if range.1 = range.2 then singles low
  else singles low.dropLast ++ [(low.getLast?.getD 0, high.head?.getD 0)] ++ singles high.tail

/-- Whether a byte is in a class. -/
def inClass (negated : Bool) (ranges : List (Char × Char)) (b : Nat) : Bool :=
  ((ranges.flatMap byteRanges).any fun r => decide (r.1 ≤ b ∧ b ≤ r.2)) != negated

/-- Adds a rest unless one of the same length is there. -/
def addRest (rests : List (List Nat)) (rest : List Nat) : List (List Nat) :=
  if rests.any fun r => r.length == rest.length then rests else rest :: rests

end Glob

namespace GlobPart

open Glob

mutual
/-- Whether a part has nothing to say: braces all of whose branches say nothing. -/
def isVoid : GlobPart → Bool
  | branches bs => allVoid bs
  | _ => false

/-- Whether all of some parts have nothing to say. -/
def areVoid : List GlobPart → Bool
  | [] => true
  | part :: rest => isVoid part && areVoid rest

/-- Whether all branches have nothing to say. -/
def allVoid : List (List GlobPart) → Bool
  | [] => true
  | branch :: rest => areVoid branch && allVoid rest
end

mutual
/-- What may be left of a text when a part has taken something from its front. -/
def rests (stops : Bool) (text : List Nat) : GlobPart → List (List Nat)
  | literal c => (dropFront (bytesOf c) text).toList
  | any =>
    match text with
    | [] => []
    | b :: rest => if stops && b = slash then [] else [rest]
  | star => tails stops text
  | leadingDirs => text :: behindSlashes text
  | trailingDirs =>
    match text with
    | [] => []
    | b :: rest => if b = slash then tails false rest else []
  | middleDirs =>
    match text with
    | [] => []
    | b :: rest => if b = slash then rest :: behindSlashes rest else []
  | oneOf negated ranges =>
    match text with
    | [] => []
    | b :: rest => if inClass negated ranges b then [rest] else []
  | branches bs => if allVoid bs then [text] else restsOfBranches stops text bs

/-- What may be left behind one of some branches. A branch that has nothing to say is none. -/
def restsOfBranches (stops : Bool) (text : List Nat) : List (List GlobPart) → List (List Nat)
  | [] => []
  | branch :: rest =>
    (if areVoid branch then [] else restsOfAll stops [text] branch) ++ restsOfBranches stops text rest

/-- What may be left of one of some texts behind parts in sequence. -/
def restsOfAll (stops : Bool) (texts : List (List Nat)) : List GlobPart → List (List Nat)
  | [] => texts
  | part :: rest =>
    restsOfAll stops ((texts.flatMap fun text => rests stops text part).foldl addRest []) rest
end

end GlobPart

namespace Glob

/-- Whether a glob is nothing but `**`. -/
def isAll (glob : Glob) : Bool :=
  match glob.parts with
  | [.leadingDirs] => true
  | _ => false

/-- Whether a path is one of those that the glob stands for. -/
def accepts (glob : Glob) (path : String) : Bool :=
  glob.isAll || (GlobPart.restsOfAll glob.stopsAtSlash [bytes path] glob.parts).any List.isEmpty

end Glob

end Rulebook
