import Banter.Lexicon
import Banter.Memory
import Banter.Reading
import Banter.Text.Lines

/-!
# Brains

A brain is a lexicon and a memory of what was learned. A step that fails keeps what it had entered into
the lexicon before it failed, so each step gives a brain whether it fails or not.
-/

namespace Banter

/-- What a conversation has taught. -/
structure Brain where
  lexicon : Lexicon
  memory : Memory

/-- Figures on the size of a brain: its symbols, the contexts of full length, and the nodes of the onward
trie with the memory they are taken to need. -/
structure Stats where
  symbols : Nat
  contexts : Nat
  nodes : Nat
  bytes : Nat
deriving DecidableEq, Repr

namespace Brain

/-- The number of symbols that a symbol is predicted from. -/
def order : Nat := 2

def empty : Brain :=
  ⟨.empty, .empty⟩

instance : Inhabited Brain := ⟨empty⟩

/-- Enters the symbols of a text into the lexicon and gives their numbers. -/
def read : Brain → String → Except Fault (Array SymbolId) × Brain
  | ⟨lexicon, memory⟩, text =>
    match lexicon.enterAll (symbolsOf text) with
    | (result, lexicon) => (result, ⟨lexicon, memory⟩)

def enterStop : Brain → Except Fault SymbolId × Brain
  | ⟨lexicon, memory⟩ =>
    match lexicon.enter .stop with
    | (result, lexicon) => (result, ⟨lexicon, memory⟩)

/-- Learns the paths of a sequence of numbers, unless it is too short to have any. -/
def study (brain : Brain) (ids : Array SymbolId) : Except Fault Unit × Brain :=
  if ids.size < order + 1 then
    (.ok (), brain)
  else
    match brain.enterStop with
    | (.ok stop, ⟨lexicon, memory⟩) => (.ok (), ⟨lexicon, memory.learn order ids stop⟩)
    | (.error fault, brain) => (.error fault, brain)

def learn (brain : Brain) (text : String) : Except Fault Unit × Brain :=
  match brain.read text with
  | (.ok ids, brain) => brain.study ids
  | (.error fault, brain) => (.error fault, brain)

/-- Learns lines one after another, up to the first that is no text or cannot be learned, and counts
them on from `count`. -/
def learnLines (count : Nat) (brain : Brain) : List (List UInt8) → Except Fault Nat × Brain
  | [] => (.ok count, brain)
  | line :: rest =>
    match Text.ofUtf8? line with
    | none => (.error (.file .notUtf8), brain)
    | some text =>
      match brain.learn text with
      | (.ok (), brain) => learnLines (count + 1) brain rest
      | (.error fault, brain) => (.error fault, brain)

/-- Learns the lines of a file's content and gives their number. -/
def train (brain : Brain) (content : List UInt8) : Except Fault Nat × Brain :=
  learnLines 0 brain (Text.linesOf content)

def stats (brain : Brain) : Stats where
  symbols := brain.lexicon.size
  contexts := brain.memory.onward.sizeAt order
  nodes := brain.memory.onward.size
  bytes := brain.memory.onward.bytes

end Brain

end Banter
