import Banter.Session

namespace Banter.Program

/-- The trouble that the system tells of, if it is one that a session can go on after. -/
def trouble? : IO.Error → Option FileTrouble
  | .noFileOrDirectory .. => some .notFound
  | .alreadyExists .. => some .alreadyExists
  | .inappropriateType _ code _ => some (if code = 21 then .isFolder else .notFolder)
  | .invalidArgument _ code _ => some (if code = 36 then .longName else .invalidPath)
  | .resourceBusy .. => some .busy
  | _ => none

/-- Gives trouble with files as an answer. -/
def attempt {α : Type} (action : IO α) : IO (Except FileTrouble α) := do
  try
    return .ok (← action)
  catch problem =>
    match trouble? problem with
    | some trouble => return .error trouble
    | none => throw problem

/-- Gives trouble with the file at a path as an answer. -/
def attemptAt {α : Type} (path : String) (action : IO α) : IO (Except FileTrouble α) :=
  if Path.holdsNull path then return .error .nullInPath else attempt action

def makeFolder (path : String) : IO Unit := do
  try
    IO.FS.createDir path
  catch
    | .alreadyExists .. => IO.FS.createDirAll path
    | problem => throw problem

def fromTop (folder : String) : IO String := do
  if Path.isFromTop folder then return folder
  else return (← IO.currentDir).toString ++ "/" ++ folder

/-- A name for a draft that few files have. It is a byte shorter than what it adds to a path. -/
def draftName : IO String := do
  let bytes ← IO.getRandomBytes (USize.ofNat (Path.draftBytes - 2))
  return "." ++ String.ofList (bytes.data.toList.map fun byte => Char.ofNat (97 + byte.toNat % 26))

/-- Opens a new file in a folder, under a name that is free. -/
partial def openDraft (folder : String) : IO Draft := do
  let draft := (← fromTop folder) ++ "/" ++ (← draftName)
  try
    discard (IO.FS.Handle.mk draft .writeNew)
    return ⟨[draft]⟩
  catch
    | .alreadyExists .. => openDraft folder
    | problem => throw problem

def draftPath (draft : Draft) : String :=
  "/".intercalate draft.names

def fillDraft (draft : Draft) (content : List UInt8) : IO Unit := do
  let file ← IO.FS.Handle.mk (draftPath draft) .write
  file.write content.toByteArray
  file.flush

def carryOut {α : Type} : Errand α → IO α
  | .done result => return result
  | .read path next => do
    let answer ← attemptAt path do
      return (← IO.FS.readBinFile path).data.toList
    carryOut (next answer)
  | .makeFolder path next => do
    carryOut (next (← attemptAt path (makeFolder path)))
  | .openDraft folder next => do
    carryOut (next (← attempt (openDraft folder)))
  | .fillDraft draft content next => do
    carryOut (next (← attempt (fillDraft draft content)))
  | .promote draft path next => do
    carryOut (next (← attempt (IO.FS.rename (draftPath draft) path)))
  | .discard draft next => do
    IO.FS.removeFile (draftPath draft)
    carryOut next

/-- Reads a line with what ends it, nothing at the end of the input. -/
partial def readLine (input : IO.FS.Stream) (line : List UInt8) : IO (List UInt8) := do
  let bytes ← input.read 1
  match bytes.data.toList with
  | [] => return line.reverse
  | byte :: _ =>
    if byte = Text.lineFeed then
      return (byte :: line).reverse
    else
      readLine input (byte :: line)

/-- Takes lines up to the end or to one that ends the session. -/
partial def converse (input output : IO.FS.Stream) (session : Session) : IO Session := do
  output.putStr Session.prompt
  output.flush
  match Text.linesOf (← readLine input []) with
  | [] => return session
  | line :: _ =>
    match ← carryOut (session.hear line) with
    | .ended session => return session
    | .taken text session =>
      output.putStr text
      converse input output session

/-- Dice that no one can foresee. -/
def freshDice : IO Dice := do
  let bytes ← IO.getRandomBytes 8
  return .mixed (bytes.data.foldl (fun seed byte => seed * 256 + byte.toUInt64) 0)

def run (args : List String) : IO UInt32 := do
  let input ← IO.getStdin
  let output ← IO.getStdout
  match ← carryOut (Session.begin args.head? (← freshDice)) with
  | .error fault =>
    IO.eprintln fault.message
    return 1
  | .ok session =>
    output.putStr session.greeting
    let session ← converse input output session
    output.putStr Session.farewell
    match ← carryOut session.finish with
    | .error fault =>
      IO.eprintln fault.message
      return 1
    | .ok text =>
      output.putStr text
      return 0

end Banter.Program

def main (args : List String) : IO UInt32 :=
  Banter.Program.run args
