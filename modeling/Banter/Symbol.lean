import Banter.Text.Alphanumeric
import Banter.Text.Quoted

namespace Banter

/-- The six punctuation marks that are symbols of their own. -/
inductive Mark where
  | period
  | comma
  | semicolon
  | colon
  | exclamation
  | question
deriving DecidableEq, Repr

namespace Mark

def all : List Mark :=
  [period, comma, semicolon, colon, exclamation, question]

def char : Mark → Char
  | period => '.'
  | comma => ','
  | semicolon => ';'
  | colon => ':'
  | exclamation => '!'
  | question => '?'

def index : Mark → UInt8
  | period => 0
  | comma => 1
  | semicolon => 2
  | colon => 3
  | exclamation => 4
  | question => 5

def ofChar? (c : Char) : Option Mark :=
  all.find? fun mark => mark.char == c

def ofIndex? (index : UInt8) : Option Mark :=
  all.find? fun mark => mark.index == index

def name : Mark → String
  | period => "Period"
  | comma => "Comma"
  | semicolon => "Semicolon"
  | colon => "Colon"
  | exclamation => "Exclamation"
  | question => "Question"

/-- A sentence ends at a period, an exclamation mark or a question mark. -/
def endsSentence : Mark → Bool
  | period | exclamation | question => true
  | comma | semicolon | colon => false

@[simp] theorem ofChar?_char (mark : Mark) : ofChar? mark.char = some mark := by
  cases mark <;> rfl

@[simp] theorem ofIndex?_index (mark : Mark) : ofIndex? mark.index = some mark := by
  cases mark <;> rfl

theorem ofChar?_eq_some_iff {c : Char} {mark : Mark} : ofChar? c = some mark ↔ c = mark.char := by
  constructor
  · intro h
    have := List.find?_some h
    exact (eq_of_beq this).symm
  · rintro rfl
    exact ofChar?_char mark

theorem ofIndex?_eq_some_iff {index : UInt8} {mark : Mark} :
    ofIndex? index = some mark ↔ index = mark.index := by
  constructor
  · intro h
    have := List.find?_some h
    exact (eq_of_beq this).symm
  · rintro rfl
    exact ofIndex?_index mark

end Mark

/-- A unit of a conversation. Words are kept in upper case and addresses as they were written. -/
inductive Symbol where
  | word (text : String)
  | mark (kind : Mark)
  | address (text : String)
  | stop
deriving DecidableEq, Repr

namespace Symbol

/-- The characters besides letters and digits that a word may hold. -/
def extraWordChars : List Char :=
  ['-', '_', '$', '#', '@', '\'', '+', '=', '*', '&', '/']

def isWordChar (c : Char) : Bool :=
  Text.isAlphanumeric c || extraWordChars.contains c

def text : Symbol → String
  | word text => text
  | mark kind => String.singleton kind.char
  | address text => text
  | stop => ""

def isStop : Symbol → Bool
  | stop => true
  | _ => false

/-- Whether a symbol is a mark that ends a sentence. -/
def endsSentence : Symbol → Bool
  | mark kind => kind.endsSentence
  | _ => false

/-- A symbol named by its kind, for messages. -/
def described : Symbol → String
  | word text => s!"Word({Text.quote text})"
  | mark kind => s!"Punctuation({kind.name})"
  | address text => s!"Url({Text.quote text})"
  | stop => "Terminator"

end Symbol

end Banter
