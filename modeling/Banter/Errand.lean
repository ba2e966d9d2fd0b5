import Banter.Disk

/-!
# Errands

An errand is a computation that reads and writes files. It tells what it does with them one by one, so
that the same errand can run on a disk or be carried out for real. A file is written as a draft first: a new
file is opened under a name that is free, filled, and then moved to its place or discarded.
-/

namespace Banter

/-- A result, or one use of a file and how the errand goes on after it. -/
inductive Errand (α : Type) where
  | done (result : α)
  | read (path : String) (next : Except FileTrouble (List UInt8) → Errand α)
  | makeFolder (path : String) (next : Except FileTrouble Unit → Errand α)
  | openDraft (folder : String) (next : Except FileTrouble Draft → Errand α)
  | fillDraft (draft : Draft) (content : List UInt8) (next : Except FileTrouble Unit → Errand α)
  | promote (draft : Draft) (path : String) (next : Except FileTrouble Unit → Errand α)
  | discard (draft : Draft) (next : Errand α)

namespace Errand

variable {α β : Type}

def andThen : Errand α → (α → Errand β) → Errand β
  | done result, following => following result
  | read path next, following => read path fun answer => (next answer).andThen following
  | makeFolder path next, following =>
    makeFolder path fun answer => (next answer).andThen following
  | openDraft folder next, following =>
    openDraft folder fun answer => (next answer).andThen following
  | fillDraft draft content next, following =>
    fillDraft draft content fun answer => (next answer).andThen following
  | promote draft path next, following =>
    promote draft path fun answer => (next answer).andThen following
  | discard draft next, following => discard draft (next.andThen following)

instance : Monad Errand where
  pure := done
  bind := andThen

def onDisk : Errand α → Disk → α × Disk
  | done result, disk => (result, disk)
  | read path next, disk => (next (disk.read path)).onDisk disk
  | makeFolder path next, disk =>
    match disk.makeFolder path with
    | (answer, disk) => (next answer).onDisk disk
  | openDraft folder next, disk =>
    match disk.openDraft folder with
    | (answer, disk) => (next answer).onDisk disk
  | fillDraft draft content next, disk =>
    match disk.fillDraft draft content with
    | (answer, disk) => (next answer).onDisk disk
  | promote draft path next, disk =>
    match disk.promote draft path with
    | (answer, disk) => (next answer).onDisk disk
  | discard draft next, disk => next.onDisk (disk.remove draft.names)

theorem onDisk_andThen (errand : Errand α) (following : α → Errand β) (disk : Disk) :
    (errand.andThen following).onDisk disk =
      (following (errand.onDisk disk).1).onDisk (errand.onDisk disk).2 := by
  induction errand generalizing disk with
  | done result => rfl
  | read path next ih => exact ih _ _
  | makeFolder path next ih => exact ih _ _
  | openDraft folder next ih => exact ih _ _
  | fillDraft draft content next ih => exact ih _ _
  | promote draft path next ih => exact ih _ _
  | discard draft next ih => exact ih _

theorem onDisk_bind (errand : Errand α) (following : α → Errand β) (disk : Disk) :
    (errand >>= following).onDisk disk =
      (following (errand.onDisk disk).1).onDisk (errand.onDisk disk).2 :=
  onDisk_andThen errand following disk

theorem onDisk_pure (result : α) (disk : Disk) : (pure result : Errand α).onDisk disk = (result, disk) := rfl

/-- Makes the folder at the end of the first way. If what leads to it is not there, the folders at the ends of
the other ways are made before it. -/
def makeFoldersAlong : List (List String) → Errand (Except FileTrouble Unit)
  | [] => done (.ok ())
  | way :: outer =>
    makeFolder (Path.ofWay way) fun
      | .error .notFound =>
        (makeFoldersAlong outer).andThen fun
          | .ok () => makeFolder (Path.ofWay way) done
          | .error trouble => done (.error trouble)
      | answer => done answer

def makeFolders (path : String) : Errand (Except FileTrouble Unit) :=
  match Path.ways path with
  | [] => done (.ok ())
  | _ :: outer => makeFoldersAlong ((Path.steps path).reverse :: outer)

end Errand

end Banter
