import Std.Data.ExtTreeMap.Lemmas
import Banter.Fault
import Banter.Path

/-!
# Disks

A disk holds files in folders and knows the folder that is present. Each step of a path has to be taken from a
folder. A file gets to its place by a move, which replaces a file that is there.

The library for temporary files is not part of this program. Its drafts are opened, filled and promoted here
as it documents that: a draft has a name that no entry has, and takes its place whole or not at all.
-/

namespace Banter

inductive Entry where
  | file (content : List UInt8)
  | folder
deriving DecidableEq

/-- The entries below the top folder, each by the names that lead to it, and the names that lead to the
present folder. -/
structure Disk where
  present : List String
  entries : Std.ExtTreeMap (List String) Entry

/-- A file that was written to be moved to its place, by the names that lead to it. -/
structure Draft where
  names : List String
deriving DecidableEq, Repr

namespace Disk

def empty : Disk :=
  ⟨[], ∅⟩

instance : Inhabited Disk := ⟨empty⟩

/-- What stands at the end of names. The top is a folder. -/
def entry? (disk : Disk) : List String → Option Entry
  | [] => some .folder
  | names => disk.entries[names]?

def put (disk : Disk) (names : List String) (entry : Entry) : Disk :=
  { disk with entries := disk.entries.insert names entry }

def remove (disk : Disk) (names : List String) : Disk :=
  { disk with entries := disk.entries.erase names }

/-- Makes a folder within another and goes there. -/
def enter (disk : Disk) (name : String) : Disk :=
  let names := disk.present ++ [name]
  { disk.put names .folder with present := names }

/-- The names that a path starts from. -/
def start (disk : Disk) (isFromTop : Bool) : List String :=
  if isFromTop then [] else disk.present

/-- Goes one step on from a folder. -/
def goOn (disk : Disk) (names : List String) (step : String) : Except FileTrouble (List String) :=
  match disk.entry? names with
  | none => .error .notFound
  | some (.file _) => .error .notFolder
  | some .folder =>
    if Path.nameBytesLimit < step.utf8ByteSize then .error .longName else .ok (Path.after names step)

/-- Takes steps one after another. What they lead to need not be there. -/
def follow (disk : Disk) (names : List String) : List String → Except FileTrouble (List String)
  | [] => .ok names
  | step :: rest => do
    let names ← disk.goOn names step
    disk.follow names rest

def followInto (disk : Disk) (names steps : List String) : Except FileTrouble (List String) :=
  disk.follow names (steps ++ ["."])

/-- The names that steps of a path lead to. The empty path leads nowhere. -/
def lead (disk : Disk) (path : String) (steps : List String) : Except FileTrouble (List String) :=
  if Path.holdsNull path then .error .nullInPath
  else if path.isEmpty then .error .notFound
  else if Path.bytesLimit ≤ path.utf8ByteSize then .error .longName
  else disk.follow (disk.start (Path.isFromTop path)) steps

def resolve (disk : Disk) (path : String) : Except FileTrouble (List String) :=
  disk.lead path (Path.steps path)

/-- A path taken from the present folder, as one from the top. -/
def fromTop (disk : Disk) (path : String) : String :=
  if Path.isFromTop path then path else "/" ++ "/".intercalate (disk.present ++ [path])

def read (disk : Disk) (path : String) : Except FileTrouble (List UInt8) := do
  match disk.entry? (← disk.resolve path) with
  | none => throw .notFound
  | some .folder => throw .isFolder
  | some (.file content) => return content

/-- Makes a folder at a path, unless there is one. The path may end with slashes. -/
def makeFolder (disk : Disk) (path : String) : Except FileTrouble Unit × Disk :=
  match disk.lead path (Path.namedSteps path) with
  | .error trouble => (.error trouble, disk)
  | .ok names =>
    match disk.entry? names with
    | some .folder => (.ok (), disk)
    | some (.file _) => (.error .alreadyExists, disk)
    | none => (.ok (), disk.put names .folder)

/-- A name that no entry has, since it is longer than all of theirs. -/
def freshName (disk : Disk) : String :=
  String.ofList (List.replicate ((String.join disk.entries.keys.flatten).length + 1) '~')

/-- Opens a new file in a folder, and tells where it is. Its path from the top must not be too long. -/
def openDraft (disk : Disk) (folder : String) : Except FileTrouble Draft × Disk :=
  if Path.bytesLimit ≤ (disk.fromTop folder).utf8ByteSize + Path.draftBytes then
    (.error .longName, disk)
  else
    match disk.followInto (disk.start (Path.isFromTop folder)) (Path.steps folder) with
    | .ok names => (.ok ⟨names ++ [disk.freshName]⟩, disk.put (names ++ [disk.freshName]) (.file []))
    | .error trouble => (.error trouble, disk)

def fillDraft (disk : Disk) (draft : Draft) (content : List UInt8) : Except FileTrouble Unit × Disk :=
  (.ok (), disk.put draft.names (.file content))

/-- The names of a file to be called `name` in a folder. -/
def placeIn (disk : Disk) (folder : List String) (name : String) (asksForFolder : Bool) :
    Except FileTrouble (List String) :=
  if name == "." || name == ".." then .error .busy
  else if Path.nameBytesLimit < name.utf8ByteSize then .error .longName
  else if asksForFolder then .error .notFolder
  else if disk.entry? (folder ++ [name]) = some .folder then .error .isFolder
  else .ok (folder ++ [name])

/-- The names that a file moved to a path gets. The path has to end with a name for it. -/
def place (disk : Disk) (path : String) : Except FileTrouble (List String) :=
  if Path.holdsNull path then .error .invalidPath
  else if path.isEmpty then .error .notFound
  else if Path.bytesLimit ≤ path.utf8ByteSize then .error .longName
  else
    match (Path.namedSteps path).reverse with
    | [] => .error .busy
    | name :: outer => do
      let folder ← disk.followInto (disk.start (Path.isFromTop path)) outer.reverse
      disk.placeIn folder name (Path.asksForFolder path)

/-- Moves a draft to a path, in place of a file that is there. -/
def promote (disk : Disk) (draft : Draft) (path : String) : Except FileTrouble Unit × Disk :=
  match disk.place path, disk.entry? draft.names with
  | .ok names, some entry => (.ok (), (disk.remove draft.names).put names entry)
  | .ok _, none => (.error .notFound, disk)
  | .error trouble, _ => (.error trouble, disk)

/-- Puts a file at a path, in place of a file that is there. -/
def write (disk : Disk) (path : String) (content : List UInt8) : Except FileTrouble Unit × Disk :=
  match disk.place path with
  | .ok names => (.ok (), disk.put names (.file content))
  | .error trouble => (.error trouble, disk)

/-- The paths of all entries below the present folder, where those of folders end with a slash. -/
def paths (disk : Disk) : List String :=
  (disk.entries.toList.filterMap fun (names, entry) =>
    match disk.present.isPrefixOf? names with
    | none | some [] => none
    | some names =>
      let path := "/".intercalate names
      match entry with
      | .folder => some (path ++ "/")
      | .file _ => some path).mergeSort

end Disk

end Banter
