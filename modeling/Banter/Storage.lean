import Banter.BrainFile.Output
import Banter.BrainFile.Reader
import Banter.Errand

namespace Banter.Brain

def load (path : String) : Errand (Except Fault Brain) :=
  .read path fun
    | .ok content => .done (BrainFile.decode content)
    | .error trouble => .done (.error (.file trouble))

/-- Loads a brain from a file, or starts with an empty one where a path leads to nothing. -/
def loadOrEmpty (path : String) : Errand (Except Fault Brain) :=
  .read path fun
    | .ok content => .done (BrainFile.decode content)
    | .error .isFolder => .done (.error (.file .isFolder))
    | .error _ => .done (.ok .empty)

/-- Replaces a file by what is written. The writing goes to a draft, which is moved to its place if all of it
succeeds and is discarded otherwise. -/
def replaceFile (path : String) (output : BrainFile.Output) : Errand (Except Fault Unit) :=
  .openDraft (Path.folder path) fun
    | .error trouble => .done (.error (.file trouble))
    | .ok draft =>
      .fillDraft draft output.bytes fun
        | .error trouble => .discard draft (.done (.error (.file trouble)))
        | .ok () =>
          match output.fault? with
          | some fault => .discard draft (.done (.error fault))
          | none =>
            .promote draft path fun
              | .error trouble => .discard draft (.done (.error (.file trouble)))
              | .ok () => .done (.ok ())

def save (brain : Brain) (path : String) : Errand (Except Fault Unit) := do
  match ← Errand.makeFolders (Path.folder path) with
  | .error trouble => return .error (.file trouble)
  | .ok () => replaceFile path (BrainFile.brainOutput brain)

def trainFrom (brain : Brain) (path : String) : Errand (Except Fault Nat × Brain) :=
  .read path fun
    | .ok content => .done (brain.train content)
    | .error trouble => .done (.error (.file trouble), brain)

end Banter.Brain
