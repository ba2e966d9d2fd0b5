import Banter.Trie

/-!
# Dice

Choices are made from a stream of 64-bit words. The library for random numbers is not part of this program,
and a choice stands for the sampling by rejection that the library documents: a choice among `n` takes words
until one falls into the zone that gives each of the `n` outcomes the same number of words. No number of words
is sure to be enough, so that the choice made here is cut off after `UInt64.size` of them, with the first
outcome.
-/

namespace Banter

/-- A stream of words and the number of words taken from it so far. -/
structure Dice where
  stream : Nat → UInt64
  drawn : Nat

namespace Dice

/-- The dice that show equally spaced words. -/
def evenlySpaced (first gap : UInt64) : Dice :=
  ⟨fun i => first + UInt64.ofNat i * gap, 0⟩

/-- The dice that show the given words and then zeros. -/
def ofArray (words : Array UInt64) : Dice :=
  ⟨fun i => words.getD i 0, 0⟩

/-- Mixes the bits of a word so that all of them depend on each other. -/
def mix (word : UInt64) : UInt64 :=
  let word := (word ^^^ (word >>> 30)) * 0xBF58476D1CE4E5B9
  let word := (word ^^^ (word >>> 27)) * 0x94D049BB133111EB
  word ^^^ (word >>> 31)

/-- The dice that mix equally spaced words, from a seed. -/
def mixed (seed : UInt64) : Dice :=
  ⟨fun i => mix (seed + UInt64.ofNat (i + 1) * 0x9E3779B97F4A7C15), 0⟩

def draw (dice : Dice) : UInt64 × Dice :=
  (dice.stream dice.drawn, { dice with drawn := dice.drawn + 1 })

/-- The greatest low half of a product that is accepted in a choice among `n`. -/
def zone (n : Nat) : Nat :=
  n <<< (63 - n.log2) - 1

/-- A choice among `n` within a number of words, the first outcome if none of them is accepted. The
product of the word and `n` has the outcome in its high half. -/
def chooseWithin (n : Nat) : (words : Nat) → Dice → Nat × Dice
  | 0, dice => (0, dice)
  | words + 1, dice =>
    let (word, dice) := dice.draw
    let product := word.toNat * n
    if product % UInt64.size ≤ zone n then (product / UInt64.size, dice) else chooseWithin n words dice

def choose (dice : Dice) (n : Nat) : Nat × Dice :=
  chooseWithin n UInt64.size dice

theorem chooseWithin_lt {n : Nat} (hn : 0 < n) (words : Nat) (dice : Dice) :
    (chooseWithin n words dice).1 < n := by
  induction words generalizing dice with
  | zero => exact hn
  | succ words ih =>
    rw [chooseWithin]
    dsimp only
    split
    next => exact Nat.div_lt_of_lt_mul (Nat.mul_lt_mul_of_pos_right (UInt64.toNat_lt_size _) hn)
    next => exact ih _

theorem choose_lt {n : Nat} (hn : 0 < n) (dice : Dice) : (dice.choose n).1 < n :=
  chooseWithin_lt hn _ dice

end Dice

/-- A choice among the children of a trie. Without children no word is taken. -/
def Trie.pick (trie : Trie) (dice : Dice) : Option SymbolId × Dice :=
  if trie.children.isEmpty then
    (none, dice)
  else
    let (i, dice) := dice.choose trie.children.size
    ((trie.children[i]?).map Trie.id, dice)

end Banter
