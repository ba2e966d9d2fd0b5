import Banter.BrainFile.Bytes

/-!
# Writing a brain piece by piece

The pieces of a brain file are written one after another. The writing ends at the first count that does not
fit a 16-bit word, which can be that of a node deep in the second trie.
-/

namespace Banter.BrainFile

/-- The bytes that were written, and the fault that ended the writing, if there was one. -/
structure Output where
  bytes : List UInt8
  fault? : Option Fault
deriving DecidableEq

namespace Output

/-- Bytes that are written without a fault. -/
def whole (bytes : List UInt8) : Output :=
  ⟨bytes, none⟩

/-- Goes on writing, unless there was a fault. -/
def andThen (first second : Output) : Output :=
  match first.fault? with
  | none => ⟨first.bytes ++ second.bytes, second.fault?⟩
  | some _ => first

def inOrder (outputs : List Output) : Output :=
  outputs.foldr andThen (whole [])

end Output

def countOutput (count : Nat) : Output :=
  if count ≤ countLimit then .whole (wordBytes (UInt16.ofNat count)) else ⟨[], some (.full countLimit)⟩

def trieOutput : Trie → Output
  | .node id children =>
    (Output.whole (wordBytes id)).andThen
      ((countOutput children.size).andThen (.inOrder (children.map trieOutput).toList))

def brainOutput (brain : Brain) : Output :=
  .inOrder [countOutput brain.lexicon.size, .whole (brain.lexicon.symbols.toList.flatMap symbolBytes),
    trieOutput brain.memory.onward, trieOutput brain.memory.backward]

end Banter.BrainFile
