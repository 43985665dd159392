import Rulebook.Files.Path
import Rulebook.Table

/-!
# Stores of files

A store is a tree of directories with a working directory. Paths lead from the working directory, or from the top
when they start with a slash.

* `Store.locate` follows a path to the place of a file or directory that is there.
* `Store.readText` and `Store.writeText` read and write files; both say why they cannot.
-/

namespace Rulebook

/-- Why a file cannot be read or written. -/
inductive FileError where
  | notFound
  | notDirectory
  | isDirectory
  | notText
  | absent (path : String)
  | stated (reason : String)
  deriving DecidableEq

/-- The reason in words. -/
def FileError.message : FileError → String
  | notFound => "No such file or directory (os error 2)"
  | notDirectory => "Not a directory (os error 20)"
  | isDirectory => "Is a directory (os error 21)"
  | notText => "stream did not contain valid UTF-8"
  | absent path => path ++ " not found"
  | stated reason => reason

/-- A file, or a directory with its entries in increasing order of their names. -/
inductive Entry where
  | file (content : ByteArray)
  | directory (entries : List (String × Entry))

namespace Entry

/-- Whether the entry is a file. -/
def isFile : Entry → Bool
  | file _ => true
  | directory _ => false

/-- The entries of a directory. -/
def entries? : Entry → Option (Table Entry)
  | directory entries => some entries
  | file _ => none

/-- Writes an entry at its place in the order of names. -/
def insert (name : String) (entry : Entry) : List (String × Entry) → List (String × Entry)
  | [] => [(name, entry)]
  | (other, e) :: rest =>
    if name = other then (name, entry) :: rest
    else if name < other then (name, entry) :: (other, e) :: rest
    else (other, e) :: insert name entry rest

/-- The entry at a place below. -/
def at? : Entry → List String → Option Entry
  | entry, [] => some entry
  | entry, name :: rest =>
    match entry.entries?.bind fun entries => Table.get? entries name with
    | some below => at? below rest
    | none => none

/-- Writes an entry at a place below, with the directories on the way; files on the way give way to them. -/
def write (new : Entry) : List String → Entry → Entry
  | [], _ => new
  | name :: rest, entry =>
    let entries := (entry.entries?).getD []
    directory (insert name (write new rest ((Table.get? entries name).getD (directory []))) entries)

end Entry

/-- A tree of files with a working directory. -/
structure Store where
  top : Entry
  working : List String

namespace Store

/-- The store that holds nothing but its working directory. -/
def empty (working : List String) : Store := ⟨Entry.write (.directory []) working (.directory []), working⟩

/-- Follows a component of a path from a place. -/
def follow (store : Store) (place : List String) (piece : String) : Except FileError (List String) :=
  match store.top.at? place with
  | none => .error .notFound
  | some (.file _) => .error .notDirectory
  | some (.directory entries) =>
    if piece = "" ∨ piece = "." then .ok place
    else if piece = ".." then .ok place.dropLast
    else if Table.has entries piece then .ok (place ++ [piece])
    else .error .notFound

/-- Where a path starts. -/
def start (store : Store) (path : String) : List String :=
  match path.toList with
  | '/' :: _ => []
  | _ => store.working

/-- The pieces of a path between slashes. -/
def piecesOf (path : String) : List String := (Text.pieces '/' path.toList).map String.ofList

/-- The place that a path leads to. -/
def locate (store : Store) (path : String) : Except FileError (List String) :=
  if path = "" then .error .notFound
  else (piecesOf path).foldlM (follow store) (start store path)

/-- The entry that a path leads to. -/
def find (store : Store) (path : String) : Except FileError Entry := do
  match store.top.at? (← locate store path) with
  | some entry => .ok entry
  | none => .error .notFound

/-- The place that a path leads to, with the entry there. -/
def located (store : Store) (path : String) : Option (List String × Entry) :=
  match locate store path with
  | .error _ => none
  | .ok place => (store.top.at? place).map fun entry => (place, entry)

/-- Whether a path leads to something. -/
def has (store : Store) (path : String) : Bool := (find store path).isOk

/-- Whether a path leads to a directory. -/
def hasDirectory (store : Store) (path : String) : Bool :=
  match find store path with
  | .ok (.directory _) => true
  | _ => false

/-- Reads the text of a file. -/
def readText (store : Store) (path : String) : Except FileError String := do
  match ← find store path with
  | .directory _ => .error .isDirectory
  | .file content =>
    match String.fromUTF8? content with
    | some text => .ok text
    | none => .error .notText

/-- The place that the components of a path lead to, whether or not there is something. -/
def placeOf (store : Store) (path : String) : List String :=
  (Path.parts path).foldl (fun place part => match part with
    | .root => []
    | .here => place
    | .parent => place.dropLast
    | .name text => place ++ [text]) store.working

/-- Puts an entry at the place of a path, with the directories on the way. -/
def put (store : Store) (path : String) (entry : Entry) : Store :=
  { store with top := Entry.write entry (store.placeOf path) store.top }

/-- Where a file is written: the place of its directory, and its name. -/
def target (store : Store) (path : String) : Except FileError (List String × String) := do
  if path = "" then .error .notFound
  else
    let pieces := piecesOf path
    let place ← pieces.dropLast.foldlM (follow store) (start store path)
    match store.top.at? place with
    | some (.directory _) =>
      match pieces.getLast? with
      | some name => if name = "" ∨ name = "." ∨ name = ".." then .error .isDirectory else .ok (place, name)
      | none => .error .notFound
    | some (.file _) => .error .notDirectory
    | none => .error .notFound

/-- Writes a text into a file, which is made where it is not there. -/
def writeText (store : Store) (path text : String) : Except FileError Store := do
  let (place, name) ← target store path
  match store.top.at? (place ++ [name]) with
  | some (.directory _) => .error .isDirectory
  | _ => .ok { store with top := Entry.write (.file text.toUTF8) (place ++ [name]) store.top }

end Store

end Rulebook
