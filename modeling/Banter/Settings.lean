import Banter.Json.Record
import Banter.Path

namespace Banter

/-- How a chat is held: where its brain is kept, the name it answers to, the characters that may follow
the name when it is spoken to, and what comes before a reply that only echoes what was heard. -/
structure Settings where
  brainFile : String
  nickname : String
  attention : String
  echoPreface : Option String
deriving DecidableEq, Repr

namespace Settings

def usual : Settings where
  brainFile := "brain.bin"
  nickname := "chatter"
  attention := ",:"
  echoPreface := some "I understand: "

instance : Inhabited Settings := ⟨usual⟩

/-- Whether two settings say the same. Paths say the same if they differ in steps that stay alone. -/
def agrees (a b : Settings) : Bool :=
  Path.agree a.brainFile b.brainFile && a.nickname == b.nickname &&
    a.attention == b.attention && a.echoPreface == b.echoPreface

inductive Field where
  | brainFile
  | nickname
  | attention
  | echoPreface
deriving DecidableEq, Repr

namespace Field

def all : List Field :=
  [brainFile, nickname, attention, echoPreface]

def key : Field → String
  | brainFile => "brain_file"
  | nickname => "nickname"
  | attention => "attention_chars"
  | echoPreface => "identical_reply_prefix"

def kind : Field → Json.Kind
  | brainFile | nickname | attention => .text
  | echoPreface => .optionalText

end Field

/-- The record of the settings. The path of a brain file is a text in it. -/
abbrev record : Json.Record where
  Field := Field
  fields := Field.all
  key := Field.key
  kind := Field.kind
  mem_fields := by intro field; cases field <;> decide
  key_injective := by intro a b; cases a <;> cases b <;> decide

def values (settings : Settings) : record.Values
  | .brainFile => settings.brainFile
  | .nickname => settings.nickname
  | .attention => settings.attention
  | .echoPreface => settings.echoPreface

def ofValues (values : record.Values) : Settings where
  brainFile := values .brainFile
  nickname := values .nickname
  attention := values .attention
  echoPreface := values .echoPreface

end Settings

end Banter
