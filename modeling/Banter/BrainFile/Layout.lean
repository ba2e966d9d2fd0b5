import Banter.Brain

/-!
# Layout of a brain file

What both writing and reading a brain file go by. A file holds the count of the symbols, the symbols in
the order of their numbers, the onward trie and the backward trie. A symbol starts with a tag; a trie has
its top first, then the count of its children, then the children. Counts and numbers are 16-bit words
with the low byte first.
-/

namespace Banter.BrainFile

/-- The tag of a mark, which is followed by its index. -/
def markTag : UInt8 := 0

/-- The tag of a word, which is followed by its text. -/
def wordTag : UInt8 := 1

def stopTag : UInt8 := 2

/-- The tag of an address, which is followed by its text. -/
def addressTag : UInt8 := 3

/-- The greatest count that a file can hold. -/
def countLimit : Nat := 65535

/-- The greatest number of bytes that hold the length of a text. -/
def lengthBytesLimit : Nat := 5

/-- The depth of the longest path that can be learned. -/
def depthLimit : Nat := Brain.order + 1

end Banter.BrainFile
