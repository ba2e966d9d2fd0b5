import Banter.BrainFile.Layout

namespace Banter.BrainFile

def wordBytes (word : UInt16) : List UInt8 :=
  [word.toUInt8, (word >>> 8).toUInt8]

/-- The bytes of a length: seven bits a byte, the lowest first, and the high bit where more follow. -/
def lengthBytes (length : Nat) : List UInt8 :=
  if length < 128 then
    [UInt8.ofNat length]
  else
    UInt8.ofNat (length % 128 + 128) :: lengthBytes (length / 128)

/-- The bytes of a text, after those of its length. -/
def textBytes (text : String) : List UInt8 :=
  lengthBytes (Text.toUtf8 text).length ++ Text.toUtf8 text

def symbolBytes : Symbol → List UInt8
  | .mark kind => [markTag, kind.index]
  | .word text => wordTag :: textBytes text
  | .stop => [stopTag]
  | .address text => addressTag :: textBytes text

def trieBytes : Trie → List UInt8
  | .node id children =>
    wordBytes id ++ wordBytes (UInt16.ofNat children.size) ++
      (children.map trieBytes).toList.flatten

/-- Whether no node of a trie has too many children for a file. -/
def fits : Trie → Bool
  | .node _ children =>
    children.size ≤ countLimit && children.attach.all fun ⟨child, _⟩ => fits child

def hasFile (brain : Brain) : Bool :=
  brain.lexicon.size ≤ countLimit && fits brain.memory.onward && fits brain.memory.backward

def brainBytes (brain : Brain) : List UInt8 :=
  wordBytes (UInt16.ofNat brain.lexicon.size) ++
    brain.lexicon.symbols.toList.flatMap symbolBytes ++
    trieBytes brain.memory.onward ++ trieBytes brain.memory.backward

/-- The content of the file of a brain. -/
def encode (brain : Brain) : Except Fault (List UInt8) :=
  if hasFile brain then .ok (brainBytes brain) else .error (.full countLimit)

end Banter.BrainFile
