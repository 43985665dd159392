import Rulebook.Description.Value
import Rulebook.Validator.Apply

/-!
# Why a description does not compile
-/

namespace Rulebook

/-- Why the value of a directive does not have the shape of its category. -/
inductive ArgumentError where
  | noLimit (key : String)
  | unexpectedKey (key : String)
  | missingKey (key : String)
  | notString (key : String)
  | notObject (what : String)
  | peersNotList
  | notPeers
  | schemaOutsideObject
  | notPattern
  | notUnique
  | halfReplacement
  | twoConditions
  | noCondition
  | notFunctionName
  | elementCount (low high : Nat)
  | notRecord (keys : List String)
  | stated (reason : String)
  deriving DecidableEq

/-- The reason in words. -/
def ArgumentError.message : ArgumentError → String
  | noLimit key => "expected a value, a reference or an object with '" ++ key ++ "'"
  | unexpectedKey key => "unexpected key '" ++ key ++ "'"
  | missingKey key => "missing '" ++ key ++ "'"
  | notString key => "'" ++ key ++ "' must be a string"
  | notObject what => what ++ " must be an object"
  | peersNotList => "'peers' must be a list of keys"
  | notPeers => "expected a list of peers or \x7bpeers, options\x7d"
  | schemaOutsideObject => "a value schema is only allowed on object validators"
  | notPattern => "expected a pattern"
  | notUnique => "expected true or \x7bcomparator, options\x7d"
  | halfReplacement => "each entry needs 'find' and 'replace'"
  | twoConditions => "'reference' and 'schema' are mutually exclusive"
  | noCondition => "requires 'reference' or 'schema'"
  | notFunctionName => "expected a function name"
  | elementCount low high => "expected " ++ toString low ++ " to " ++ toString high ++ " elements"
  | notRecord keys => "expected an object with " ++ ", ".intercalate keys ++ " or a sequence"
  | stated reason => reason

/-- Why a description does not compile. A nested description belongs to a directive. -/
inductive CompileError where
  | unknownDirective (name : String)
  | reference (cause : ReferenceError)
  | pattern (cause : PatternError)
  | function (cause : ResolveError)
  | argument (directive : String) (cause : ArgumentError)
  | description (directive : Option String) (cause : DescriptionError)
  | engine (cause : EngineError)

/-- The reason in words. -/
def ResolveError.message : ResolveError → String
  | unknown name => "Unknown function: " ++ name
  | otherKind name expected => "Function '" ++ name ++ "' is not a " ++ expected.text

/-- The reason in words. -/
def CompileError.message : CompileError → String
  | unknownDirective name => "Unknown directive: " ++ name
  | reference cause => "Malformed reference: " ++ cause.message
  | pattern cause => "Malformed pattern: " ++ cause.message
  | function cause => cause.message
  | argument directive cause => "Invalid argument for '" ++ directive ++ "': " ++ cause.message
  | description directive cause =>
    "Invalid nested description: "
      ++ (match directive with
        | some name => "in '" ++ name ++ "': "
        | none => "")
      ++ cause.message
  | engine cause => "Engine error: " ++ cause.message

end Rulebook
