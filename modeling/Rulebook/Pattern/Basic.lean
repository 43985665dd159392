import Rulebook.Json.Text
import Rulebook.Regex.Match

/-!
# Patterns

A pattern is a regular expression with flags, an optional name, and possibly inverted. The flags `i`, `m`, `s` and
`x` change what the expression means; `g`, `u` and `y` are kept but have no effect. A pattern holds only
expressions that compile, so whether it accepts a text is always defined.

A pattern is written as its bare source, as a literal `/source/flags`, or as a record.

* `Pattern.make` builds a pattern from a source and flag letters, `Pattern.parse` reads either text form.
* `Pattern.text` writes the text form, with the delimiters only where they are needed.
-/

namespace Rulebook

/-- Why a pattern cannot be read. -/
inductive PatternError where
  | unsupportedFlag (flag : Char) (source flags : String)
  | repeatedFlag (flag : Char) (source flags : String)
  | unsupportedExtraFlag (flag : Char)
  | notRegular (source : String)
  | notPattern (value : Json)
  | notText (value : Json)
  | missing
  | unsupportedOption (name : String)
  | stated (reason : String)

/-- The reason in words. -/
def PatternError.message : PatternError → String
  | unsupportedFlag flag source flags =>
    "unsupported flag '" ++ flag.toString ++ "' in /" ++ source ++ "/" ++ flags
  | repeatedFlag flag source flags => "repeated flag '" ++ flag.toString ++ "' in /" ++ source ++ "/" ++ flags
  | unsupportedExtraFlag flag => "unsupported flag '" ++ flag.toString ++ "'"
  | notRegular source => "failed to compile '" ++ source ++ "': not a regular expression"
  | notPattern value => "expected a pattern string or record, got " ++ value.compact
  | notText value => "'pattern' must be a string, got " ++ value.compact
  | missing => "pattern record is missing 'pattern'"
  | unsupportedOption name => "unsupported pattern option '" ++ name ++ "'"
  | stated reason => reason

namespace Pattern

/-- The flags that change what an expression means. -/
def inlineFlags : List Char := ['i', 'm', 's', 'x']

/-- The flags that are kept without an effect. -/
def inertFlags : List Char := ['g', 'u', 'y']

/-- Whether a letter is a flag. -/
def isFlag (c : Char) : Bool := inlineFlags.contains c || inertFlags.contains c

/-- Adds a flag to flags in alphabetical order. -/
def addFlag (flag : Char) : List Char → List Char
  | [] => [flag]
  | c :: rest => if flag = c then c :: rest else if flag < c then flag :: c :: rest else c :: addFlag flag rest

/-- The expression with its effective flags in front. -/
def effective (source : String) (flags : List Char) : List Char :=
  match flags.filter inlineFlags.contains with
  | [] => source.toList
  | active => ['(', '?'] ++ active ++ [')'] ++ source.toList

end Pattern

/-- A pattern: a regular expression that compiles, its flags in alphabetical order, a name, and inversion. -/
structure Pattern where
  source : String
  flags : List Char
  name : Option String
  invert : Bool
  compiles : (Regex.compile? (Pattern.effective source flags)).isSome = true
  deriving DecidableEq

namespace Pattern

/-- The compiled expression. -/
def term (p : Pattern) : Regex.Term := (Regex.compile? (effective p.source p.flags)).get p.compiles

/-- Whether a text passes: it has a part that matches, or has none when the pattern is inverted. -/
def accepts (p : Pattern) (text : String) : Bool := Regex.isMatch p.term text.toList != p.invert

/-- Which of the texts pass. -/
def acceptsEach (p : Pattern) (texts : List String) : List Bool :=
  let term := p.term
  texts.map fun text => Regex.isMatch term text.toList != p.invert

/-- The pattern of a source and flags in alphabetical order. -/
def compile (source : String) (flags : List Char) : Except PatternError Pattern :=
  if h : (Regex.compile? (effective source flags)).isSome = true then .ok ⟨source, flags, none, false, h⟩
  else .error (.notRegular source)

/-- Collects flag letters; none is unknown and none comes twice. -/
def collectFlags (source flags : String) : List Char → List Char → Except PatternError (List Char)
  | set, [] => .ok set
  | set, c :: rest =>
    if !isFlag c then .error (.unsupportedFlag c source flags)
    else if set.contains c then .error (.repeatedFlag c source flags)
    else collectFlags source flags (addFlag c set) rest

/-- The pattern of a source and flag letters. -/
def make (source flags : String) : Except PatternError Pattern := do
  compile source (← collectFlags source flags [] flags.toList)

/-- Splits a text at its last slash. -/
def splitLast : List Char → Option (List Char × List Char)
  | [] => none
  | c :: rest =>
    match splitLast rest with
    | some (front, back) => some (c :: front, back)
    | none => if c = '/' then some ([], rest) else none

/-- Source and flags of a literal `/source/flags`. A text whose last slash is followed by anything but flag letters
is no literal. -/
def splitLiteral (text : List Char) : Option (List Char × List Char) :=
  match text with
  | '/' :: body =>
    match splitLast body with
    | some (source, flags) => if flags.all isFlag then some (source, flags) else none
    | none => none
  | _ => none

/-- Reads a bare source or a literal. -/
def parse (text : String) : Except PatternError Pattern :=
  match splitLiteral text.toList with
  | some (source, flags) => make (String.ofList source) (String.ofList flags)
  | none => make text ""

/-- The text form: the bare source where it has no flags and does not read as a literal, else a literal. -/
def text (p : Pattern) : String :=
  if p.flags.isEmpty && (splitLiteral p.source.toList).isNone then p.source
  else "/" ++ p.source ++ "/" ++ String.ofList p.flags

end Pattern

end Rulebook
