import Rulebook.Files.Store
import Rulebook.Glob.Match
import Rulebook.Unicode.Case

/-!
# Ignore files

A directory may hold files that say which entries below it are left out of a walk: `.ignore`, and, in a tree with
version control, `.gitignore` and `.git/info/exclude`. Each line is a glob; a line with `!` in front keeps what
earlier lines leave out, one with a slash behind it speaks of directories only, and one with a slash elsewhere is
held against the whole path below the directory.

`IgnoreLevel.isIgnored` decides about an entry from the levels above it, the nearest one first. Rules of `.ignore`
go before the others, and those of version control reach up to the top of its tree.
-/

namespace Rulebook

/-- A line of an ignore file. -/
structure IgnoreRule where
  glob : Glob
  keeps : Bool
  directoriesOnly : Bool

namespace IgnoreRule

/-- The line without the blanks at its end, unless the last is escaped. -/
def trimEnd (line : List Char) : List Char :=
  match line.reverse with
  | ' ' :: '\\' :: _ => line
  | _ => (line.reverse.dropWhile Case.isBlank).reverse

/-- Whether a text ends in `/**`. -/
def endsInDirs (text : List Char) : Bool := text.reverse.take 3 == ['*', '*', '/']

/-- Whether a text starts with `**` that stands for directories. -/
def startsWithDirs (text : List Char) : Bool := text.take 3 == ['*', '*', '/'] || text == ['*', '*']

/-- The glob of a line: one without a slash holds at any depth, and one for all below a directory leaves out the
directory itself. -/
def widened (anchored : Bool) (text : List Char) : List Char :=
  let deep := if anchored || text.contains '/' || startsWithDirs text then text else ['*', '*', '/'] ++ text
  if endsInDirs deep then deep ++ ['/', '*'] else deep

/-- The line without the slash that restricts it to directories, and whether there was one. -/
def splitSlash (text : List Char) : List Char × Bool :=
  match text.reverse with
  | '/' :: '\\' :: rest => (rest.reverse, true)
  | '/' :: rest => (rest.reverse, true)
  | _ => (text, false)

/-- The rule of a text whose mark in front is read already. -/
def make (keeps anchored : Bool) (text : List Char) : Option IgnoreRule :=
  let (text, directoriesOnly) := splitSlash text
  (Glob.parse? true true (String.ofList (widened anchored text))).map fun glob => ⟨glob, keeps, directoriesOnly⟩

/-- Reads what follows the mark that keeps: a slash in front holds the line at its directory. -/
def readAnchor (keeps : Bool) : List Char → Option IgnoreRule
  | '/' :: rest => make keeps true rest
  | rest => make keeps false rest

/-- Reads a line. A comment or an empty line is no rule; a malformed glob is a fault. -/
def read (line : List Char) : Except Unit (Option IgnoreRule) :=
  let rule (r : Option IgnoreRule) : Except Unit (Option IgnoreRule) :=
    match r with
    | some r => .ok (some r)
    | none => .error ()
  match line with
  | '#' :: _ => .ok none
  | line =>
    match trimEnd line with
    | [] => .ok none
    | '\\' :: '!' :: rest => rule (make false false ('!' :: rest))
    | '\\' :: '#' :: rest => rule (make false false ('#' :: rest))
    | '!' :: rest => rule (readAnchor true rest)
    | text => rule (readAnchor false text)

/-- What a list of rules says about a path: the last rule that holds decides. -/
def verdict (rules : List IgnoreRule) (path : String) (isDirectory : Bool) : Option Bool :=
  ((rules.reverse.filter fun r => isDirectory || !r.directoriesOnly).find? fun r => r.glob.accepts path).map
    fun r => !r.keeps

end IgnoreRule

/-- The rules of an ignore file, and whether a line of it is at fault. -/
structure IgnoreFile where
  rules : List IgnoreRule := []
  faulty : Bool := false

namespace IgnoreFile

/-- The lines of a content: as many as are text, without the ends of lines. -/
def lines (content : List UInt8) : List (List Char) × Bool :=
  let pieces := (content.splitBy fun a _ => a != 10).map fun line => line.filter (· != 10)
  let texts := pieces.map fun piece => String.fromUTF8? (ByteArray.mk piece.toArray)
  let whole := (texts.takeWhile Option.isSome).filterMap id
  (whole.map fun text =>
    match text.toList.reverse with
    | '\r' :: rest => rest.reverse
    | _ => text.toList, whole.length != texts.length)

/-- The line without marks of the byte order in front. -/
def withoutMark (line : List Char) : List Char := line.dropWhile fun c => c.toNat == 0xFEFF

/-- Reads the lines of an ignore file. -/
def ofLines (lines : List (List Char)) : IgnoreFile :=
  let readings := lines.map IgnoreRule.read
  ⟨readings.filterMap fun r => match r with
    | .ok rule => rule
    | .error _ => none,
   readings.any fun r => !r.isOk⟩

/-- Reads an ignore file, if it is one. -/
def ofFound (entry : Option Entry) : IgnoreFile :=
  match entry with
  | some (.file content) =>
    let (texts, broken) := lines content.toList
    let file := ofLines (match texts with
      | first :: rest => withoutMark first :: rest
      | [] => [])
    { file with faulty := file.faulty || broken }
  | _ => {}

end IgnoreFile

/-- The ignore files of a directory, and whether version control starts there. A walk speaks of an entry by its place
below the root of the walk: the first `depth` names of it lead to the directory, or, for a directory above the root,
`lead` leads from the directory to the root. -/
structure IgnoreLevel where
  lead : List String
  depth : Nat
  plain : IgnoreFile
  versioned : IgnoreFile
  excluded : IgnoreFile
  isTop : Bool

namespace IgnoreLevel

/-- The level of a directory. -/
def ofEntry (lead : List String) (depth : Nat) (entry : Entry) : IgnoreLevel :=
  { lead
    depth
    plain := .ofFound (entry.at? [".ignore"])
    versioned := .ofFound (entry.at? [".gitignore"])
    excluded := .ofFound (entry.at? [".git", "info", "exclude"])
    isTop := (entry.at? [".git"]).isSome }

/-- Whether an ignore file of the level is at fault. -/
def faulty (level : IgnoreLevel) : Bool := level.plain.faulty || level.versioned.faulty || level.excluded.faulty

/-- The path of a place as the level sees it. -/
def relative (level : IgnoreLevel) (place : List String) : String :=
  "/".intercalate (level.lead ++ place.drop level.depth)

/-- The first verdict of some levels about a place, by one kind of ignore file. -/
def first (file : IgnoreLevel → IgnoreFile) (levels : List IgnoreLevel) (place : List String)
    (isDirectory : Bool) : Option Bool :=
  levels.findSome? fun level => IgnoreRule.verdict (file level).rules (level.relative place) isDirectory

/-- The levels up to the first at which version control starts; there are none where it starts nowhere. -/
def versionedLevels : List IgnoreLevel → List IgnoreLevel
  | [] => []
  | level :: rest =>
    if level.isTop then [level]
    else if rest.any isTop then level :: versionedLevels rest
    else []

/-- Whether a place is left out, by the levels above it from the nearest on. -/
def isIgnored (levels : List IgnoreLevel) (place : List String) (isDirectory : Bool) : Bool :=
  let versioned := versionedLevels levels
  ((first plain levels place isDirectory).or
    ((first IgnoreLevel.versioned versioned place isDirectory).or
      (first excluded versioned place isDirectory))).getD false

end IgnoreLevel

end Rulebook
