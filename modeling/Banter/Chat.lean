import Banter.Reply
import Banter.Settings
import Banter.Storage
import Banter.Text.Blank

namespace Banter

/-- A brain with the settings that it is used by. -/
structure Chat where
  settings : Settings
  brain : Brain

/-- What a line says to the one with a name, if it is spoken to that one: what follows the name and the
character that calls for attention. -/
def Settings.spokenTo? (settings : Settings) (line : String) : Option String :=
  match Text.splitBytes line.toList settings.nickname.utf8ByteSize with
  | some (head, c :: rest) =>
    if Text.lower (String.ofList head) = Text.lower settings.nickname ∧
        c ∈ settings.attention.toList then
      some (Text.trim (String.ofList rest))
    else
      none
  | _ => none

namespace Chat

/-- What is answered with a reply, if it says anything. An echo comes after its preface. -/
def answer? (settings : Settings) (reply : Reply) : Option String :=
  if reply.isEmpty then
    none
  else if reply.isEcho then
    some (settings.echoPreface.getD "" ++ reply.text)
  else
    some reply.text

/-- Takes a line: replies if it is spoken to, and learns in any case. -/
def take : Chat → String → Dice → Except Fault (Option String) × Chat × Dice
  | ⟨settings, brain⟩, line, dice =>
    let line := Text.trim line
    match settings.spokenTo? line with
    | none =>
      match brain.learn line with
      | (result, brain) => (result.map fun () => none, ⟨settings, brain⟩, dice)
    | some text =>
      match brain.reply text dice with
      | (result, brain, dice) => (result.map (answer? settings), ⟨settings, brain⟩, dice)

def forget (chat : Chat) : Chat :=
  { chat with brain := .empty }

/-- Opens the chat with the brain in its file, or with an empty one where there is no file. -/
def start (settings : Settings) : Errand (Except Fault Chat) := do
  match ← Brain.loadOrEmpty settings.brainFile with
  | .ok brain => return .ok ⟨settings, brain⟩
  | .error fault => return .error fault

def save (chat : Chat) : Errand (Except Fault Unit) :=
  chat.brain.save chat.settings.brainFile

def train : Chat → String → Errand (Except Fault Nat × Chat)
  | ⟨settings, brain⟩, path => do
    let (result, brain) ← brain.trainFrom path
    return (result, ⟨settings, brain⟩)

end Chat

namespace Stats

def lines (stats : Stats) : List String :=
  [s!"Total unique symbols: {stats.symbols}",
    s!"Total unique tuples: {stats.contexts}",
    s!"Total nodes: {stats.nodes}",
    s!"Memory usage: {stats.bytes}"]

def json (stats : Stats) : String :=
  "\x7b\"symbols\":" ++ toString stats.symbols ++ ",\"tuples\":" ++ toString stats.contexts ++
    ",\"nodes\":" ++ toString stats.nodes ++ ",\"bytes\":" ++ toString stats.bytes ++ "\x7d"

end Stats

end Banter
