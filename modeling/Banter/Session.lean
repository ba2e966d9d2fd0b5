import Banter.Chat
import Banter.Settings.Form

/-!
# Sessions

A session is a chat over lines of input and output. A line is a command or something said; what it prints
is shown before the next prompt. When the input ends or a command quits, the brain is saved.
-/

namespace Banter

inductive Command where
  | quit
  | stats
  | statsJson
  | save
  | forget
  | train (path : String)
  | say (line : String)
deriving DecidableEq, Repr

/-- The command that a line gives. What begins with no command is said. -/
def Command.ofLine (line : String) : Command :=
  let line := Text.trim line
  if line = ":quit" ∨ line = ":exit" then .quit
  else if line = ":stats" then .stats
  else if line = ":stats json" then .statsJson
  else if line = ":save" then .save
  else if line = ":clear" then .forget
  else
    match ":train ".toList.isPrefixOf? line.toList with
    | some rest => .train (Text.trim (String.ofList rest))
    | none => .say line

inductive Colour where
  | red
  | green
  | yellow
  | cyan
deriving DecidableEq, Repr

def Colour.number : Colour → Nat
  | red => 9
  | green => 10
  | yellow => 11
  | cyan => 14

def Colour.paint (colour : Colour) (text : String) : String :=
  "\x1b[38;5;" ++ toString colour.number ++ "m" ++ text ++ "\x1b[39m\n"

/-- A chat with the dice for its replies. -/
structure Session where
  chat : Chat
  dice : Dice

namespace Session

def prompt : String := "> "

def greeting (session : Session) : String :=
  "Chatter. Say '" ++ session.chat.settings.nickname ++ ": ...' to get a reply.\n" ++
    "Commands: :train <file>, :stats [json], :save, :clear, :quit\n" ++
    "---------------------------------------------------------------\n"

def farewell : String :=
  "\nSaving brain...\n"

def report : Except Fault String → String
  | .ok text => Colour.green.paint text
  | .error fault => Colour.red.paint ("[ERROR] " ++ fault.message)

def reportAnswer : Except Fault (Option String) → String
  | .ok none => ""
  | .ok (some answer) => report (.ok answer)
  | .error fault => report (.error fault)

/-- Carries out a command other than quitting, and gives what it prints. -/
def obey : Session → Command → Errand (String × Session)
  | session, .quit => return ("", session)
  | session, .stats =>
    return (String.join (session.chat.brain.stats.lines.map Colour.cyan.paint), session)
  | session, .statsJson => return (report (.ok session.chat.brain.stats.json), session)
  | session, .save => do
    let result ← session.chat.save
    return (report (result.map fun () => "Brain saved."), session)
  | ⟨chat, dice⟩, .forget => return (Colour.yellow.paint "Forgot everything.", ⟨chat.forget, dice⟩)
  | ⟨chat, dice⟩, .train path => do
    let (result, chat) ← chat.train path
    return (report (result.map fun lines => s!"OM NOM NOM! ({lines} lines)"), ⟨chat, dice⟩)
  | ⟨chat, dice⟩, .say line =>
    match chat.take line dice with
    | (result, chat, dice) => return (reportAnswer result, ⟨chat, dice⟩)

def start (settings : Settings) (dice : Dice) : Errand (Except Fault Session) := do
  match ← Chat.start settings with
  | .error fault => return .error fault
  | .ok chat => return .ok ⟨chat, dice⟩

def finish (session : Session) : Errand (Except Fault String) := do
  match ← session.chat.save with
  | .ok () => return .ok ("Brain saved to '" ++ session.chat.settings.brainFile ++ "'\n")
  | .error fault => return .error fault

/-- What becomes of a session when it takes a line. -/
inductive Turn where
  | ended (session : Session)
  | taken (printed : String) (session : Session)

/-- Takes a line. The session ends if the line quits or is no text. -/
def hear (session : Session) (line : List UInt8) : Errand Turn :=
  match (Text.ofUtf8? line).map Command.ofLine with
  | none | some .quit => return .ended session
  | some command => do
    let (printed, session) ← session.obey command
    return .taken printed session

/-- Takes lines up to the end or to one that ends the session, and adds what is printed to `printed`. -/
def converse (printed : String) (session : Session) :
    List (List UInt8) → Errand (String × Session)
  | [] => return (printed ++ prompt, session)
  | line :: rest => do
    match ← session.hear line with
    | .ended session => return (printed ++ prompt, session)
    | .taken text session => converse (printed ++ prompt ++ text) session rest

/-- What a program leaves behind when it ends. -/
structure Outcome where
  succeeds : Bool
  printed : String
deriving DecidableEq, Repr

/-- Takes lines and saves the brain, if the session could be begun. -/
def proceed (began : Except Fault Session) (lines : List (List UInt8)) : Errand Outcome :=
  match began with
  | .error _ => return ⟨false, ""⟩
  | .ok session => do
    let (printed, session) ← converse session.greeting session lines
    match ← session.finish with
    | .ok text => return ⟨true, printed ++ farewell ++ text⟩
    | .error _ => return ⟨false, printed ++ farewell⟩

def hold (settings : Settings) (lines : List (List UInt8)) (dice : Dice) : Errand Outcome := do
  proceed (← start settings dice) lines

/-- The settings of a session: those in a file, or the usual ones if none is named. -/
def settingsFrom : (file : Option String) → Errand (Except Fault Settings)
  | some path => Settings.load path
  | none => return .ok .usual

def begin (settingsFile : Option String) (dice : Dice) : Errand (Except Fault Session) := do
  match ← settingsFrom settingsFile with
  | .error fault => return .error fault
  | .ok settings => start settings dice

def run (settingsFile : Option String) (input : List UInt8) (dice : Dice) : Errand Outcome := do
  proceed (← begin settingsFile dice) (Text.linesOf input)

end Session

end Banter
