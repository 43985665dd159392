/-!
# Glob patterns

A glob pattern stands for a set of paths: `?` is one byte, `*` any bytes, `[a-z]` and `[!a-z]` one byte of a class,
`{a,b}` either branch, and a backslash takes the special meaning from the character behind it. `**` alone between
slashes stands for any number of directories, none included; elsewhere it is just `*` twice.

`Glob.parse?` reads a pattern. A class has to be closed, unless the reader is told to take an open bracket as it is.
-/

namespace Rulebook

/-- A part of a glob pattern. -/
inductive GlobPart where
  | literal (char : Char)
  | any
  | star
  /-- `**` in front of a path. -/
  | leadingDirs
  /-- `**` behind a slash at the end. -/
  | trailingDirs
  /-- `**` between slashes. -/
  | middleDirs
  | oneOf (negated : Bool) (ranges : List (Char × Char))
  | branches (parts : List (List GlobPart))

/-- A glob pattern: its parts, and whether `?` and `*` stop at slashes. -/
structure Glob where
  parts : List GlobPart
  stopsAtSlash : Bool

namespace Glob

/-- What a class turns out to be. -/
inductive ClassReading where
  | closed (ranges : List (Char × Char)) (rest : List Char)
  | unclosed
  | reversed

/-- Reads the items of a class. The ranges read so far come last first; `inRange` says that a hyphen stands open. A
bracket or hyphen in the first place is one of the items. -/
def readItems (first inRange : Bool) (ranges : List (Char × Char)) : List Char → ClassReading
  | [] => .unclosed
  | c :: rest =>
    if first then
      readItems false false ((c, c) :: ranges) rest
    else if c = ']' then
      .closed (ranges.reverse ++ (if inRange then [('-', '-')] else [])) rest
    else if c = '-' && !inRange then readItems false true ranges rest
    else if inRange then
      match ranges with
      | (low, _) :: before =>
        if c < low then .reversed else readItems false false ((low, c) :: before) rest
      | [] => readItems false false [(c, c)] rest
    else readItems false false ((c, c) :: ranges) rest

/-- Reads a class behind its bracket, and whether it is negated. -/
def readClass (text : List Char) : Bool × ClassReading :=
  match text with
  | '!' :: rest => (true, readItems true false [] rest)
  | '^' :: rest => (true, readItems true false [] rest)
  | rest => (false, readItems true false [] rest)

/-- The branches of an open brace: the finished ones, and the one being read. -/
structure Frame where
  finished : List (List GlobPart) := []
  current : List GlobPart := []

namespace Frame

/-- Adds a part. -/
def push (frame : Frame) (part : GlobPart) : Frame := { frame with current := frame.current ++ [part] }

/-- Puts `**` in the place of the slash in front of it. One directly behind another adds nothing. -/
def pushDirs (frame : Frame) (atEnd : Bool) : Frame :=
  match frame.current.getLast? with
  | some .leadingDirs => frame
  | some .trailingDirs => frame
  | _ => { frame with current := frame.current.dropLast ++ [if atEnd then .trailingDirs else .middleDirs] }

end Frame

/-- The state of a reader: whether an open bracket is taken as it is, the character read last, and the open braces
from the inside out, the last frame being the pattern itself. -/
structure Reader where
  lenient : Bool
  plainBrackets : Bool := false
  last : Option Char := none
  top : Frame := {}
  outer : List Frame := []

namespace Reader

/-- Adds a part that ends with a character. -/
def push (r : Reader) (part : GlobPart) (last : Char) : Reader :=
  { r with top := r.top.push part, last := some last }

/-- How two stars are read in front of the given rest; gives the rest behind them. -/
def pushStars (r : Reader) (rest : List Char) : Reader × List Char :=
  let plain := ((r.push .star '*').push .star '*', rest)
  let braced := !r.outer.isEmpty
  if r.top.current.isEmpty then
    match rest with
    | [] => (r.push .leadingDirs '*', [])
    | c :: rest => if c = '/' then (r.push .leadingDirs '/', rest) else plain
  else if r.last ≠ some '/' && !(braced && (r.last == some ',' || r.last == some '\x7b')) then plain
  else
    match rest with
    | [] => ({ r with top := r.top.pushDirs true, last := some '*' }, [])
    | c :: after =>
      if braced && (c = ',' || c = '\x7d') then ({ r with top := r.top.pushDirs true, last := some '*' }, rest)
      else if c = '/' then ({ r with top := r.top.pushDirs false, last := some '/' }, after)
      else plain

/-- Closes the innermost brace. -/
def close (r : Reader) : Option Reader :=
  match r.outer with
  | [] => none
  | frame :: outer =>
    some { r with
      top := frame.push (.branches (r.top.finished ++ [r.top.current])), outer, last := some '\x7d' }

/-- Ends a branch; outside braces a comma is just a character. -/
def comma (r : Reader) : Reader :=
  if r.outer.isEmpty then r.push (.literal ',') ','
  else { r with top := ⟨r.top.finished ++ [r.top.current], []⟩, last := some ',' }

/-- Reads the parts of a pattern; `fuel` bounds the steps. -/
def run : Nat → Reader → List Char → Option (List GlobPart)
  | _, r, [] => if r.outer.isEmpty then some r.top.current else none
  | 0, _, _ => none
  | fuel + 1, r, c :: rest =>
    if c = '?' then run fuel (r.push .any c) rest
    else if c = '*' then
      match rest with
      | '*' :: rest =>
        let (r, rest) := r.pushStars rest
        run fuel r rest
      | rest => run fuel (r.push .star c) rest
    else if c = '[' && !r.plainBrackets then
      match readClass rest with
      | (negated, .closed ranges rest) => run fuel (r.push (.oneOf negated ranges) ']') rest
      | (_, .reversed) => none
      | (_, .unclosed) =>
        if r.lenient then run fuel { r.push (.literal c) c with plainBrackets := true } rest else none
    else if c = '\x7b' then
      run fuel { r with top := {}, outer := r.top :: r.outer, last := some c } rest
    else if c = '\x7d' then
      match r.close with
      | some r => run fuel r rest
      | none => none
    else if c = ',' then run fuel r.comma rest
    else if c = '\\' then
      match rest with
      | [] => none
      | d :: rest => run fuel (r.push (.literal d) d) rest
    else run fuel (r.push (.literal c) c) rest

end Reader

/-- Reads a pattern, and says whether `?` and `*` are to stop at slashes and an open bracket is to be taken as it
is. -/
def parse? (stopsAtSlash lenient : Bool) (pattern : String) : Option Glob :=
  (Reader.run (pattern.length + 1) { lenient } pattern.toList).map fun parts => ⟨parts, stopsAtSlash⟩

end Glob

end Rulebook
