/-!
# Paths

A path is read as steps between slashes. It starts from the top folder if it begins with a slash, and
from the present folder otherwise. An empty step or a dot stays where it is, and two dots go up. The paths of
the folders on the way keep their steps as they were written, since the length of a path counts.
-/

namespace Banter

namespace Path

/-- The characters before the first slash, and those between and after the slashes. -/
def cut (cs : List Char) : List Char × List (List Char) :=
  cs.foldr (fun c (first, rest) => if c = '/' then ([], first :: rest) else (c :: first, rest)) ([], [])

def firstStep (path : String) : String :=
  String.ofList (cut path.toList).1

def furtherSteps (path : String) : List String :=
  (cut path.toList).2.map String.ofList

def steps (path : String) : List String :=
  firstStep path :: furtherSteps path

/-- The steps of a path that are not empty. -/
def namedSteps (path : String) : List String :=
  (steps path).filter (· != "")

def isFromTop (path : String) : Bool :=
  path.toList.head? == some '/'

/-- Whether a path ends with a slash, which asks for a folder. -/
def asksForFolder (path : String) : Bool :=
  path.toList.getLast? == some '/'

/-- Whether a step stays in the folder. -/
def staysPut (step : String) : Bool :=
  step == "" || step == "."

/-- Where a step leads from names. -/
def after (names : List String) (step : String) : List String :=
  if staysPut step then names
  else if step == ".." then names.dropLast
  else names ++ [step]

/-- The ways to the end of a path and to the folders before it, from the longest to the shortest. Paths and
ways are given by their steps from the last to the first. A way ends with a step that does not stay, or is
the dot that begins a path. -/
def waysOutward : List String → List (List String)
  | [] => []
  | [first] => if first == "" then [] else [[first]]
  | step :: outer =>
    if staysPut step then waysOutward outer else (step :: outer) :: waysOutward outer

/-- The ways to the end of a path and to the folders before it. -/
def ways (path : String) : List (List String) :=
  waysOutward (steps path).reverse

def ofWay (way : List String) : String :=
  "/".intercalate way.reverse

/-- The path to the folder that holds the end of a path. A dot is the present folder. -/
def folder (path : String) : String :=
  match ways path with
  | [] => "."
  | [_] => if isFromTop path then "/" else "."
  | _ :: way :: _ => ofWay way

/-- Whether two paths are the same but for steps that stay. A dot that begins a path counts. -/
def agree (a b : String) : Bool :=
  isFromTop a == isFromTop b && (ways a).map List.head? == (ways b).map List.head?

/-- Whether a path holds the null character, which no name can hold. -/
def holdsNull (path : String) : Bool :=
  path.toList.any (·.toNat == 0)

def bytesLimit : Nat := 4096

def nameBytesLimit : Nat := 255

/-- The number of bytes that the name of a draft adds to the path of its folder. -/
def draftBytes : Nat := 11

end Path

end Banter
