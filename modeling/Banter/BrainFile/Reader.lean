import Banter.BrainFile.Layout

/-!
# Reading a brain file

A reader takes what it reads from the front of the bytes and gives the rest back. The first defect that it
meets is its fault. A brain is read only from a file without bytes left over.
-/

namespace Banter.BrainFile

/-- What is read from the front of bytes, with the bytes that are left. -/
abbrev Reader (α : Type) := List UInt8 → Except Fault (α × List UInt8)

def defect {α : Type} (cause : Defect) : Except Fault α :=
  .error (.defective cause)

def readByte : Reader UInt8
  | [] => defect .endOfFile
  | byte :: rest => .ok (byte, rest)

def readWord : Reader UInt16
  | low :: high :: rest => .ok (low.toUInt16 + high.toUInt16 * 256, rest)
  | _ => defect .endOfFile

def readBytes (count : Nat) : Reader (List UInt8) := fun bytes =>
  let taken := bytes.take count
  if taken.length = count then .ok (taken, bytes.drop count) else defect .endOfFile

/-- Reads a length of at most the given number of bytes. -/
def readLengthWithin : (limit : Nat) → Reader Nat
  | 0, _ => defect .longLength
  | limit + 1, bytes => do
    let (byte, bytes) ← readByte bytes
    if byte < 128 then
      return (byte.toNat, bytes)
    else
      let (higher, bytes) ← readLengthWithin limit bytes
      return (byte.toNat - 128 + 128 * higher, bytes)

/-- Reads a text after its length. -/
def readText : Reader String := fun bytes => do
  let (length, bytes) ← readLengthWithin lengthBytesLimit bytes
  let (content, bytes) ← readBytes length bytes
  match Text.ofUtf8? content with
  | some text => return (text, bytes)
  | none => defect .notUtf8

def readSymbol : Reader Symbol := fun bytes => do
  let (tag, bytes) ← readByte bytes
  if tag = markTag then
    let (index, bytes) ← readByte bytes
    match Mark.ofIndex? index with
    | some kind => return (.mark kind, bytes)
    | none => defect (.unknownMark index)
  else if tag = wordTag then
    let (text, bytes) ← readText bytes
    return (.word text, bytes)
  else if tag = stopTag then
    return (.stop, bytes)
  else if tag = addressTag then
    let (text, bytes) ← readText bytes
    return (.address text, bytes)
  else
    defect (.unknownTag tag)

/-- Reads the given number of items and adds them to `done`. -/
def readOnto {α : Type} (item : Reader α) : (count : Nat) → (done : Array α) → Reader (Array α)
  | 0, done, bytes => .ok (done, bytes)
  | count + 1, done, bytes =>
    match item bytes with
    | .ok (value, bytes) => readOnto item count (done.push value) bytes
    | .error fault => .error fault

def readMany {α : Type} (item : Reader α) (count : Nat) : Reader (Array α) :=
  readOnto item count #[]

/-- Reads a count and a lexicon of that many symbols. -/
def readLexicon : Reader Lexicon := fun bytes => do
  let (count, bytes) ← readWord bytes
  let (symbols, bytes) ← readMany readSymbol count.toNat bytes
  let lexicon ← Lexicon.ofList symbols.toList
  return (lexicon, bytes)

/-- Reads the number of a node and the count of its children, where the number may have to be listed and
where there may be no room for children. -/
def readNode (isAllowed : SymbolId → Bool) (mayBranch : Bool) : Reader (SymbolId × UInt16) :=
  fun bytes => do
    let (id, bytes) ← readWord bytes
    if !isAllowed id then
      defect (.unlistedId id)
    else
      let (count, bytes) ← readWord bytes
      if count != 0 && !mayBranch then
        defect .tooDeep
      else
        return ((id, count), bytes)

/-- Makes a node of children that have to stand in order. -/
def nodeOf (id : SymbolId) (children : Array Trie) : Except Fault Trie :=
  match Trie.ofChildren? id children with
  | some trie => .ok trie
  | none => defect (.unsortedChildren id)

/-- Reads a trie of at most the given depth, whose numbers below the top have to be listed. -/
def readTrie (isListed : SymbolId → Bool) :
    (depth : Nat) → (isAllowed : SymbolId → Bool) → Reader Trie
  | 0, isAllowed, bytes => do
    let ((id, _), bytes) ← readNode isAllowed false bytes
    return (.leaf id, bytes)
  | depth + 1, isAllowed, bytes => do
    let ((id, count), bytes) ← readNode isAllowed true bytes
    let (children, bytes) ← readMany (readTrie isListed depth isListed) count.toNat bytes
    let trie ← nodeOf id children
    return (trie, bytes)

/-- Reads a trie below whose top all numbers are those of a lexicon. -/
def readPaths (lexicon : Lexicon) : Reader Trie :=
  readTrie (·.toNat < lexicon.size) depthLimit fun _ => true

/-- The brain whose file holds the given bytes. -/
def decode (bytes : List UInt8) : Except Fault Brain := do
  let (lexicon, bytes) ← readLexicon bytes
  let (onward, bytes) ← readPaths lexicon bytes
  let (backward, bytes) ← readPaths lexicon bytes
  if bytes.isEmpty then
    return ⟨lexicon, ⟨onward, backward⟩⟩
  else
    defect (.trailingBytes bytes.length)

end Banter.BrainFile
