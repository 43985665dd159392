import Rulebook.Function.Basic
import Rulebook.Json.Text
import Rulebook.Text.Pieces

/-!
# References

A reference points at a value that is found when a value is validated. Its notation is a target and a dotted path:

* `/a.b` starts at the root document, `$a.b` at the validation context, `#a` at values local to the rule;
* `k` leading dots start at ancestor `k - 1`, and no leading dot at ancestor 1.

`Reference.parse` reads the notation and `Reference.text` writes it.
-/

namespace Rulebook

/-- Where a reference starts. Ancestor 0 is the value that carries the rule. -/
inductive Target where
  | ancestor (level : Nat)
  | root
  | context
  | localValue
  deriving DecidableEq

/-- A pointer to another value, with the name of a transform to apply to what it finds. -/
structure Reference where
  target : Target
  path : List String
  isIn : Bool := false
  adjust : Option String := none
  adjuster : Option NamedFunction := none

/-- Why a reference cannot be read. -/
inductive ReferenceError where
  | empty
  | noKey (text : String)
  | emptySegment (text : String)
  | notNotation (value : Json)
  | notText (value : Json)
  | unsupportedOption (name : String)
  | stated (reason : String)

/-- The reason in words. -/
def ReferenceError.message : ReferenceError → String
  | empty => "reference notation is empty"
  | noKey text => "'" ++ text ++ "' has no key after its prefix"
  | emptySegment text => "'" ++ text ++ "' contains an empty path segment"
  | notNotation value => "expected reference notation, got " ++ value.compact
  | notText value => "'$ref' must be a string, got " ++ value.compact
  | unsupportedOption name => "unsupported reference option '" ++ name ++ "'"
  | stated reason => reason

namespace Reference

/-- Whether two references have the same notation, flag and adjust name. -/
def same (a b : Reference) : Bool :=
  a.target == b.target && a.path == b.path && a.isIn == b.isIn && a.adjust == b.adjust

/-- Binds the transform that the adjust name stands for. -/
def bind (r : Reference) (adjuster : NamedFunction) : Reference :=
  { r with adjust := some adjuster.name, adjuster := some adjuster }

/-- The target of a notation, and its path part. -/
def splitTarget : List Char → Target × List Char
  | '/' :: rest => (.root, rest)
  | '$' :: rest => (.context, rest)
  | '#' :: rest => (.localValue, rest)
  | text =>
    let dots := (text.takeWhile (· == '.')).length
    (.ancestor (if dots = 0 then 1 else dots - 1), text.dropWhile (· == '.'))

/-- Reads reference notation. Context and local targets need a path. -/
def parse (text : String) : Except ReferenceError Reference :=
  if text.toList = [] then .error .empty
  else
    let (target, rest) := splitTarget text.toList
    if rest = [] then
      match target with
      | .context | .localValue => .error (.noKey text)
      | _ => .ok { target, path := [] }
    else
      let pieces := Text.pieces '.' rest
      if pieces.any List.isEmpty then .error (.emptySegment text)
      else .ok { target, path := pieces.map String.ofList }

/-- Whether a piece starts like the notation of a target. -/
def startsLikeTarget : List Char → Bool
  | c :: _ => c == '/' || c == '$' || c == '#'
  | [] => false

/-- The notation as characters. Ancestor 1 is written without dots unless its path is empty or would then be
read as another target. -/
def written (target : Target) (path : List (List Char)) : List Char :=
  let joined := Text.join '.' path
  match target with
  | .root => '/' :: joined
  | .context => '$' :: joined
  | .localValue => '#' :: joined
  | .ancestor level =>
    let bare := level == 1 && (match path with
      | [] => false
      | first :: _ => !startsLikeTarget first)
    if bare then joined else List.replicate (level + 1) '.' ++ joined

/-- The notation of a reference. -/
def text (r : Reference) : String := String.ofList (written r.target (r.path.map String.toList))

end Reference

end Rulebook
