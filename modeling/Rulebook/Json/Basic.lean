import Rulebook.Json.Number
import Rulebook.Table

/-!
# JSON values

A JSON value keeps the members of an object in the order in which they were first written.

* `Json.same` is equality of values: objects are compared without regard to the order of their members, numbers
  by `Number.same`. Two objects are the same when they have equally many members and each member of the first
  has an equal one under its name in the second.
* `Json.depth` counts nested arrays and objects; reading bounds it, see `Outline`.
-/

namespace Rulebook

/-- A JSON value. -/
inductive Json where
  | null
  | bool (value : Bool)
  | num (value : Number)
  | str (value : String)
  | arr (items : List Json)
  | obj (members : List (String × Json))
  deriving Inhabited

namespace Json

/-- The members of an object. -/
def members? : Json → Option (Table Json)
  | obj members => some members
  | _ => none

/-- The text of a string. -/
def text? : Json → Option String
  | str value => some value
  | _ => none

/-- The member of an object under a name; other values have none. -/
def field? (value : Json) (name : String) : Option Json :=
  match value with
  | obj members => Table.get? members name
  | _ => none

/-- Whether the value is `true`. -/
def isTrue : Json → Bool
  | bool true => true
  | _ => false

mutual
/-- Equality of values, without regard to the order of members. -/
def same : Json → Json → Bool
  | null, null => true
  | bool a, bool b => a == b
  | num a, num b => a.same b
  | str a, str b => a == b
  | arr xs, arr ys => sameItems xs ys
  | obj ms, obj ns => ms.length == ns.length && sameMembers ms ns
  | _, _ => false

/-- Equality of lists of values, place by place. -/
def sameItems : List Json → List Json → Bool
  | [], [] => true
  | x :: xs, y :: ys => same x y && sameItems xs ys
  | _, _ => false

/-- Whether every listed member has an equal one under its name in the table. -/
def sameMembers : List (String × Json) → Table Json → Bool
  | [], _ => true
  | (name, value) :: rest, table =>
    (match Table.get? table name with
      | some other => same value other
      | none => false) && sameMembers rest table
end

mutual
/-- How many arrays and objects are nested. -/
def depth : Json → Nat
  | arr items => depthItems items + 1
  | obj members => depthMembers members + 1
  | _ => 0

/-- The deepest of a list of values. -/
def depthItems : List Json → Nat
  | [] => 0
  | item :: rest => max (depth item) (depthItems rest)

/-- The deepest of the values of a list of members. -/
def depthMembers : List (String × Json) → Nat
  | [] => 0
  | (_, value) :: rest => max (depth value) (depthMembers rest)
end

mutual
/-- Every object in the value holds each of its names once. -/
def Distinct : Json → Prop
  | arr items => DistinctItems items
  | obj members => (Table.names members).Nodup ∧ DistinctMembers members
  | _ => True

/-- Every object in the listed values holds each of its names once. -/
def DistinctItems : List Json → Prop
  | [] => True
  | item :: rest => Distinct item ∧ DistinctItems rest

/-- Every object in the values of the listed members holds each of its names once. -/
def DistinctMembers : List (String × Json) → Prop
  | [] => True
  | (_, value) :: rest => Distinct value ∧ DistinctMembers rest
end

end Json

end Rulebook
