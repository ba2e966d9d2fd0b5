import Banter.Brain
import Banter.Dice
import Banter.Writing

/-!
# Replies

A reply grows from a seed, a run of the heard symbols that the memory knows, first backward to where a
text or a sentence begins and then onward to where one ends. What was heard is learned afterwards, and
what is said is not.
-/

namespace Banter

/-- What was heard and what is said to it. -/
structure Reply where
  heard : List Symbol
  said : List Symbol
deriving DecidableEq, Repr

namespace Reply

def text (reply : Reply) : String :=
  textOf reply.said

def isEmpty (reply : Reply) : Bool :=
  reply.said.isEmpty

/-- Whether something is said, and just what was heard. -/
def isEcho (reply : Reply) : Bool :=
  !reply.isEmpty && reply.said == reply.heard.filter (!·.isStop)

end Reply

namespace Brain

/-- From this length on a reply may end with a sentence. -/
def softLimit : Nat := 25

def hardLimit : Nat := 100

def isStop (brain : Brain) (id : SymbolId) : Bool :=
  (brain.lexicon.symbol? id).any (·.isStop)

def endsSentence (brain : Brain) (id : SymbolId) : Bool :=
  (brain.lexicon.symbol? id).any (·.endsSentence)

/-- A choice of what follows a context in a direction, if the memory knows any. -/
def pick (brain : Brain) (direction : Direction) (context : List SymbolId) (dice : Dice) :
    Option SymbolId × Dice :=
  match brain.memory.find? direction context with
  | some trie => trie.pick dice
  | none => (none, dice)

/-- The first of the longest runs, at most `length` long, that the memory knows. -/
def knownRun? (brain : Brain) (ids : Array SymbolId) : (length : Nat) → Option (List SymbolId)
  | 0 => none
  | length + 1 =>
    match (Memory.runs (length + 1) ids).find? fun run =>
        (brain.memory.find? .onward run).isSome with
    | some run => some run
    | none => brain.knownRun? ids length

/-- What a reply grows from: a known run of the heard numbers, no longer than the dice allow, or else any
number that the memory begins a path with. -/
def seed (brain : Brain) (ids : Array SymbolId) (dice : Dice) : List SymbolId × Dice :=
  let (further, dice) := dice.choose order
  match brain.knownRun? ids (further + 1) with
  | some run => (run, dice)
  | none =>
    let (first, dice) := brain.pick .onward [] dice
    (first.toList, dice)

/-- Adds at most `room` numbers at the front, up to where a text or a sentence begins. -/
def growBackward (brain : Brain) : (room : Nat) → List SymbolId → Dice → List SymbolId × Dice
  | 0, said, dice => (said, dice)
  | room + 1, said, dice =>
    match brain.pick .backward (said.take order).reverse dice with
    | (some id, dice) =>
      if brain.isStop id || brain.endsSentence id then (said, dice)
      else brain.growBackward room (id :: said) dice
    | (none, dice) => (said, dice)

/-- Adds at most `room` numbers at the back, up to the end of a text, or of a sentence once the soft limit
is reached. -/
def growOnward (brain : Brain) : (room : Nat) → List SymbolId → Dice → List SymbolId × Dice
  | 0, said, dice => (said, dice)
  | room + 1, said, dice =>
    match brain.pick .onward (said.drop (said.length - order)) dice with
    | (some id, dice) =>
      if brain.isStop id then (said, dice)
      else if softLimit ≤ said.length + 1 && brain.endsSentence id then (said ++ [id], dice)
      else brain.growOnward room (said ++ [id]) dice
    | (none, dice) => (said, dice)

def compose (brain : Brain) (ids : Array SymbolId) (dice : Dice) : List SymbolId × Dice :=
  match brain.seed ids dice with
  | ([], dice) => ([], dice)
  | (seed, dice) =>
    let (opened, dice) := brain.growBackward (hardLimit - seed.length) seed dice
    brain.growOnward (hardLimit - opened.length) opened dice

def symbolsOfIds (brain : Brain) (ids : List SymbolId) : Except Fault (List Symbol) :=
  (ids.mapM brain.lexicon.symbolOf).map (·.filter (!·.isStop))

def replyOfIds (brain : Brain) (heard said : List SymbolId) : Except Fault Reply := do
  return ⟨← brain.symbolsOfIds heard, ← brain.symbolsOfIds said⟩

/-- Enters the stop if something is said, since a reply ends with it. -/
def endReply (brain : Brain) (said : List SymbolId) : Except Fault Unit × Brain :=
  match said with
  | [] => (.ok (), brain)
  | _ :: _ =>
    match brain.enterStop with
    | (.ok _, brain) => (.ok (), brain)
    | (.error fault, brain) => (.error fault, brain)

/-- Ends a reply, then learns what was heard. -/
def finishReply (brain : Brain) (heard : Array SymbolId) (said : List SymbolId) :
    Except Fault Unit × Brain :=
  match brain.endReply said with
  | (.ok (), brain) => brain.study heard
  | (.error fault, brain) => (.error fault, brain)

def reply (brain : Brain) (text : String) (dice : Dice) : Except Fault Reply × Brain × Dice :=
  match brain.read text with
  | (.error fault, brain) => (.error fault, brain, dice)
  | (.ok ids, brain) =>
    match brain.compose ids dice with
    | (said, dice) =>
      match brain.finishReply ids said with
      | (.error fault, brain) => (.error fault, brain, dice)
      | (.ok (), brain) => (brain.replyOfIds ids.toList said, brain, dice)

end Brain

end Banter
