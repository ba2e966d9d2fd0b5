import Banter.Trie

/-!
# Memories

A memory holds what a brain has learned as paths of symbol numbers: onward paths say which symbol follows
others, backward paths which symbol comes before them.
-/

namespace Banter

inductive Direction where
  | onward
  | backward
deriving DecidableEq, Repr

theorem Direction.forall_iff {holds : Direction → Prop} :
    (∀ direction, holds direction) ↔ holds .onward ∧ holds .backward := by
  constructor
  · intro h
    exact ⟨h .onward, h .backward⟩
  · intro h direction
    cases direction with
    | onward => exact h.1
    | backward => exact h.2

/-- A trie for each direction. -/
structure Memory where
  onward : Trie
  backward : Trie

namespace Memory

def empty : Memory :=
  ⟨.empty, .empty⟩

instance : Inhabited Memory := ⟨empty⟩

def trie (memory : Memory) : Direction → Trie
  | .onward => memory.onward
  | .backward => memory.backward

def insert : Memory → Direction → List SymbolId → Memory
  | ⟨onward, backward⟩, .onward, path => ⟨onward.insert path, backward⟩
  | ⟨onward, backward⟩, .backward, path => ⟨onward, backward.insert path⟩

def find? (memory : Memory) (direction : Direction) (path : List SymbolId) : Option Trie :=
  (memory.trie direction).find? path

/-- The runs of a given length among numbers, from left to right. -/
def runs (length : Nat) (ids : Array SymbolId) : List (List SymbolId) :=
  (List.range (ids.size + 1 - length)).map fun i => (ids.extract i (i + length)).toList

/-- A memory while it learns, and the path that was put together last. -/
structure Learner where
  memory : Memory
  path : Array SymbolId

namespace Learner

def insertOnward : Learner → Array SymbolId → Learner
  | ⟨memory, path⟩, run => ⟨memory.insert .onward run.toList, path⟩

/-- Adds the path that was put together backward. -/
def insertBackward : Learner → Learner
  | ⟨memory, path⟩ => ⟨memory.insert .backward path.toList, path⟩

/-- Clears the path and puts a run of numbers into it, the last of them first. -/
def putReversed : Learner → Array SymbolId → Learner
  | ⟨memory, path⟩, run => ⟨memory, path.shrink 0 ++ run.reverse⟩

/-- Puts one more number at the end of the path. -/
def put : Learner → SymbolId → Learner
  | ⟨memory, path⟩, id => ⟨memory, path.push id⟩

end Learner

/-- Learns what there is to learn at a position: the run onward that begins there; the opening backward, once
`order` numbers are there for it; and the run backward that begins there, unless it begins with the stop. -/
def learnAt (order : Nat) (ids : Array SymbolId) (stop : SymbolId) (learner : Learner) (i : Nat) : Learner :=
  let learner :=
    if i + order < ids.size then learner.insertOnward (ids.extract i (i + order + 1)) else learner
  let learner :=
    if i + 1 = order then ((learner.putReversed (ids.extract 0 order)).put stop).insertBackward else learner
  if order ≤ i ∧ ids[i]? ≠ some stop then
    (learner.putReversed (ids.extract (i - order) (i + 1))).insertBackward
  else
    learner

/-- Learns the paths of a sequence of numbers, with `order` numbers before the last of a path. A sequence
of fewer numbers than a path has leaves no trace. -/
def learn (order : Nat) (ids : Array SymbolId) (stop : SymbolId) (memory : Memory) : Memory :=
  if ids.size < order + 1 then memory
  else ((List.range ids.size).foldl (learnAt order ids stop) ⟨memory, #[]⟩).memory

end Memory

end Banter
