import ToolFlow.Definition.Loader
import ToolFlow.Notice

/-!
# Workflow files

Workflows from a file in a tree of files, and from the default file of a directory, which may be
missing and is passed over with a warning when there is a problem with it.

A disk is what is known of it when the loading begins: a tree for the working directory and one for
what stands under the root. Paths are followed name by name, with the limits that names and paths
have, and a file is its bytes. They have to be UTF-8, and all line ends become line feeds, as in any
file that is read as text. Rights to read a file, links and what changes meanwhile are left out.

How the text of a file is read is a parameter (`Reading`), since there are two ways to load
workflows and both read files in the same way.

## Main definitions

* `find?`: the entry of a path.
* `readFile`: the workflows of a file, or why there are none.
* `readDefault`: the workflows of the default file of a directory, with the line of the log when it
  is passed over.
-/

namespace ToolFlow

namespace Definition

/-- What stands under a path. -/
inductive Entry where
  | directory
  | file (data : List UInt8)

/-- Files and directories, each under its place as a list of names. -/
abbrev Tree := List (List String × Entry)

/-- What is known of a disk: all that stands in the working directory, and some of what stands
elsewhere, from the root on. -/
structure Disk where
  working : Tree
  elsewhere : Tree := []

/-! ### Paths -/

/-- The parts of a path between slashes, without empty ones and single dots. -/
def pathParts (path : String) : List String :=
  ((Text.splitOnP (· == '/') path.toList).map String.ofList).filter fun part =>
    part != "" && part != "."

/-- How many slashes the root of a path is written with: two are kept apart from one, more are
one. -/
def rootSlashes (path : String) : Nat :=
  let slashes := (path.toList.takeWhile (· == '/')).length
  if slashes ≤ 2 then slashes else 1

/-- A path as it is shown. -/
def pathText (path : String) : String :=
  let root := String.ofList (List.replicate (rootSlashes path) '/')
  let text := root ++ String.intercalate "/" (pathParts path)
  if text == "" then "." else text

/-- A path and a name below it. -/
def below (directory name : String) : String :=
  match pathText directory with
  | "." => name
  | "/" => "/" ++ name
  | directory => directory ++ "/" ++ name

/-- The entry at a place; the directories above a file are there as well. -/
def entryAt? (tree : Tree) (place : List String) : Option Entry :=
  match tree.find? fun entry => entry.1 == place with
  | some (_, entry) => some entry
  | none =>
    if place.isEmpty || tree.any fun entry => place.isPrefixOf entry.1 then some .directory
    else none

/-- Where something may stand: in the working directory, under the root, or above the working
directory, where only the directories on the way to the root are known. -/
inductive Location where
  | working (names : List String)
  | root (names : List String)
  | above

namespace Location

/-- The entry at a location. -/
def entry? (disk : Disk) : Location → Option Entry
  | working names => entryAt? disk.working names
  | root names => entryAt? disk.elsewhere names
  | above => some .directory

/-- The directory that a location is in; the root is in itself. -/
def parent : Location → Location
  | working [] => above
  | working names => working names.dropLast
  | root names => root names.dropLast
  | above => above

/-- The location of a name in a directory, when something may be known to stand there. -/
def child? (name : String) : Location → Option Location
  | working names => some (working (names ++ [name]))
  | root names => some (root (names ++ [name]))
  | above => none

end Location

/-- The longest name, in bytes. -/
def nameLimit : Nat := 255

/-- The longest path, in bytes. -/
def pathLimit : Nat := 4095

/-- A path, or a name on its way, is too long. -/
inductive TooLong where
  | tooLong

/-- The entry that the parts of a path lead to from a location, every location on the way being a
directory. -/
def walk? (disk : Disk) : Location → List String → Except TooLong (Option Entry)
  | location, [] => .ok (location.entry? disk)
  | location, part :: rest =>
    match location.entry? disk with
    | some .directory =>
      if nameLimit < part.utf8ByteSize then .error .tooLong
      else if part == ".." then walk? disk location.parent rest
      else
        match location.child? part with
        | some location => walk? disk location rest
        | none => .ok none
    | _ => .ok none

/-- The entry of a path. No name has a null character. -/
def find? (disk : Disk) (path : String) : Except TooLong (Option Entry) :=
  let start : Location := if rootSlashes path == 0 then .working [] else .root []
  if path.toList.contains '\x00' then .ok none
  else if pathLimit < (pathText path).utf8ByteSize then .error .tooLong
  else walk? disk start (pathParts path)

/-- The failure of a path that is too long. -/
def Failure.ofLongPath (path : String) : Failure :=
  .breakdown (.raised "OSError" s!"[Errno 36] File name too long: {Text.quoted path}")

/-! ### Loading -/

/-- The text of a file, with every line end as a line feed. -/
def fileText? : Entry → Option String
  | .directory => none
  | .file data =>
    (String.fromUTF8? ⟨data.toArray⟩).map fun s =>
      String.ofList (Text.universalNewlines s.toList)

/-- How the text of a file is read, given the path that is shown for it. -/
abbrev Reading := (source text : String) → Except Failure (List Workflow)

/-- The workflows of a file, as its text is read. -/
def readFile (reading : Reading) (disk : Disk) (path : String) :
    Except Failure (List Workflow) :=
  let shown := pathText path
  match find? disk path with
  | .error .tooLong => .error (.ofLongPath shown)
  | .ok none => .error (.problem (.fileMissing shown))
  | .ok (some entry) =>
    match fileText? entry with
    | none => .error (.problem (.fileUnreadable shown))
    | some text => reading shown text

/-- The name of the default file of a directory. -/
def defaultFile : String := "chainprobe-workflows.yaml"

/-- The name of the logger of this module. -/
def logger : String := "chainprobe.definitions.loader"

/-- The workflows of the default file of a directory, if it is there and has no problem. -/
def readDefault (reading : Reading) (disk : Disk) (directory : String) :
    Except Breakdown (Option (List Workflow) × List Notice) :=
  let path := below directory defaultFile
  let passedOver (problem : Problem) : Notice :=
    .warning logger s!"Ignoring invalid workflow file {path}: {problem.message}"
  match find? disk path with
  | .ok none => .ok (none, [])
  | _ =>
    match readFile reading disk path with
    | .ok workflows => .ok (some workflows, [])
    | .error (.breakdown b) => .error b
    | .error (.problem problem) => .ok (none, [passedOver problem])

/-- The workflows of a file that hold nothing without a written form. -/
def loadFile (disk : Disk) (path : String) : Except Failure (List Workflow) :=
  readFile load disk path

/-- The workflows of the default file that hold nothing without a written form. -/
def loadDefault (disk : Disk) (directory : String) :
    Except Breakdown (Option (List Workflow) × List Notice) :=
  readDefault load disk directory

end Definition

end ToolFlow
