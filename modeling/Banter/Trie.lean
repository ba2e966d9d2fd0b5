import Banter.Bisect
import Banter.Fault

/-!
# Tries

A trie holds paths of symbol numbers. The children of a node stand in strictly ascending order, so that a
child is found by bisection, and a set of paths has one trie only.
-/

namespace Banter

/-- A node with its number and its children. -/
inductive Trie where
  | node (id : SymbolId) (children : Array Trie)

namespace Trie

def id : Trie → SymbolId
  | node id _ => id

def children : Trie → Array Trie
  | node _ children => children

def leaf (id : SymbolId) : Trie :=
  node id #[]

def empty : Trie :=
  leaf 0

instance : Inhabited Trie := ⟨empty⟩

/-- Whether numbers stand in strictly ascending order. -/
def isAscending : List SymbolId → Bool
  | a :: b :: rest => a < b && isAscending (b :: rest)
  | _ => true

def inOrder (nodes : Array Trie) : Bool :=
  isAscending (nodes.toList.map id)

/-- The node with the given children, if they stand in order. -/
def ofChildren? (id : SymbolId) (children : Array Trie) : Option Trie :=
  if inOrder children then some (node id children) else none

/-- The position of a number among nodes in order: the count of those with a smaller number. -/
def position (nodes : Array Trie) (id : SymbolId) : Nat :=
  Bisect.count (fun i => nodes[i]?.any (·.id < id)) nodes.size

def isAt (nodes : Array Trie) (position : Nat) (id : SymbolId) : Bool :=
  nodes[position]?.any (·.id == id)

def child? (trie : Trie) (id : SymbolId) : Option Trie :=
  let i := position trie.children id
  if isAt trie.children i id then trie.children[i]? else none

def find? : Trie → List SymbolId → Option Trie
  | trie, [] => some trie
  | trie, id :: path => (trie.child? id).bind (·.find? path)

/-- Adds a path. What is there already stays. -/
def insert : Trie → List SymbolId → Trie
  | trie, [] => trie
  | node top nodes, id :: path =>
    let i := position nodes id
    if isAt nodes i id then
      node top (nodes.modify i (·.insert path))
    else
      node top (nodes.insertIdxIfInBounds i ((leaf id).insert path))

def insertAll (trie : Trie) (paths : List (List SymbolId)) : Trie :=
  paths.foldl insert trie

def total (counts : Array Nat) : Nat :=
  counts.foldl (· + ·) 0

/-- The number of nodes a given depth below the top. -/
def sizeAt : Trie → Nat → Nat
  | _, 0 => 1
  | node _ nodes, depth + 1 => total (nodes.map (·.sizeAt depth))

def size : Trie → Nat
  | node _ nodes => 1 + total (nodes.map size)

def nodeBytes : Nat := 32

def bytes : Trie → Nat
  | node _ nodes => nodeBytes + total (nodes.map bytes)

/-- The length of the longest path. -/
def depth : Trie → Nat
  | node _ nodes => nodes.attach.foldl (fun longest ⟨child, _⟩ => max longest (child.depth + 1)) 0

def isSorted : Trie → Bool
  | node _ nodes => inOrder nodes && nodes.attach.all fun ⟨child, _⟩ => child.isSorted

end Trie

end Banter
