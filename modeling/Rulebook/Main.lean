import Rulebook.Command.Run

/-!
# The program

The program takes a picture of the files that a command can read, runs the command on the picture, writes the files
that come of it, and prints what is to be printed.
-/

namespace Rulebook
namespace Picture

/-- The files of a directory that say what a walk leaves out. -/
def ignoreFiles : List String := [".ignore", ".gitignore", ".git/info/exclude"]

/-- Whether a walk can read a file: description files, and those that say what it leaves out. -/
def isRead (path : String) : Bool :=
  Selection.isJsonPath path || ignoreFiles.any fun name => ("/" ++ name).toList.reverse.isPrefixOf path.toList.reverse

/-- A file, or a directory with all below it. Links and what cannot be read are left out. -/
partial def entryAt (named : Bool) (path : String) : IO Entry := do
  let place := (← IO.currentDir) / path
  if ← place.isDir then
    let below ← (← place.readDir).toList.filterMapM fun found => do
      try
        match (← found.path.symlinkMetadata).type with
        | .symlink => return none
        | _ => return some (found.fileName, ← entryAt false found.path.toString)
      catch _ => return none
    return .directory (below.foldl (fun entries e => Entry.insert e.1 e.2 entries) [])
  else if named || isRead path then return .file (← IO.FS.readBinFile path)
  else return .file .empty

/-- Adds what is at a path, without what is below a directory unless that is asked for. -/
def see (deep : Bool) (store : Store) (path : String) : IO Store := do
  let place := (← IO.currentDir) / path
  try
    if !(← place.pathExists) then return store
    if !deep && (← place.isDir) then return if store.has path then store else store.put path (.directory [])
    return store.put path (← entryAt true path)
  catch _ => return store

/-- Adds what a path leads through. -/
def seeWay (store : Store) (path : String) : IO Store :=
  let pieces := Store.piecesOf path
  ((List.range pieces.length).map fun n => "/".intercalate (pieces.take (n + 1))).foldlM (see false) store

/-- Adds a root of a walk, with the ignore files above it. -/
def seeRoot (store : Store) (path : String) : IO Store := do
  let store ← see true (← seeWay store path) path
  let above := (List.range (store.placeOf path).length).map fun n => (store.placeOf path).take n
  above.foldlM (fun store place =>
    (".git" :: ignoreFiles).foldlM (fun store name => see false store ("/" ++ "/".intercalate (place ++ [name]))) store)
    store

/-- Adds what a command is applied to. -/
def seeCommand (store : Store) : Command → IO Store
  | .check paths _ => paths.foldlM seeRoot store
  | .canonical file output _ => (file :: output.toList).foldlM seeWay store
  | _ => return store

/-- The picture for a command. The configuration is added last, since a walk leaves out what it holds. -/
def ofInvocation (invocation : Invocation) : IO Store := do
  let here ← IO.currentDir
  let empty := Store.empty (Store.piecesOf here.toString |>.filter (· ≠ ""))
  seeWay (← seeCommand empty invocation.command) (invocation.config.getD Config.fileName)

end Picture

namespace Completion

/-- Writes the files of a completion and prints what it says. -/
def perform (completion : Completion) : IO UInt32 := do
  try
    completion.written.forM fun file => IO.FS.writeFile file.1 file.2
    IO.eprint completion.err
    IO.print completion.out
    return completion.status.code.toUInt32
  catch e =>
    IO.eprintln ("Error: I/O error: " ++ toString e)
    return Status.error.code.toUInt32

end Completion
end Rulebook

/-- Runs the command that the arguments name. -/
def main (args : List String) : IO UInt32 := do
  match Rulebook.Invocation.parse args with
  | .error e => (Rulebook.CommandLine.refuse e).perform
  | .ok invocation => (invocation.run (← Rulebook.Picture.ofInvocation invocation)).perform
