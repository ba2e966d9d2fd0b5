import Banter.Symbol
import Banter.Text.Blank
import Banter.Text.Casing

/-!
# Reading a text

A text is read symbol by symbol. Word characters are gathered in a buffer until another character or the end
of the text shows what they are: a word, in upper case, or the start of a web address. A mark is a symbol of its
own, and one that ends a word is kept back until the word is given. The stop comes once, after the last
character, and a text without characters has no symbols.
-/

namespace Banter

/-- The state between two symbols: the characters still to come, the word characters gathered so far, a symbol
that was kept back, and whether the end of the text was met. -/
structure Reading where
  chars : List Char
  buffer : String
  pending : Option Symbol
  done : Bool

namespace Reading

def start (text : String) : Reading where
  chars := text.toList
  buffer := ""
  pending := none
  done := text.isEmpty

def takeWord (reading : Reading) : Symbol × Reading :=
  (.word (Text.upper reading.buffer), { reading with buffer := "" })

/-- Adds characters to an address up to the next blank one, which is looked at only. -/
def takeTail (address : String) : List Char → String × List Char
  | [] => (address, [])
  | c :: rest => if Text.isBlank c then (address, c :: rest) else takeTail (address.push c) rest

/-- Gives what was gathered as the start of an address, after a colon. -/
def takeAddress (reading : Reading) (colon : Char) : Symbol × Reading :=
  let (address, rest) := takeTail (reading.buffer.push colon) reading.chars
  (.address address, { reading with chars := rest, buffer := "" })

def isScheme (buffer : String) : Bool :=
  buffer == "http" || buffer == "https"

/-- The next symbol among characters, with nothing kept back and the end not met. -/
def readOn (buffer : String) : List Char → Symbol × Reading
  | [] =>
    if !buffer.isEmpty then takeWord ⟨[], buffer, some .stop, true⟩ else (.stop, ⟨[], buffer, none, true⟩)
  | c :: rest =>
    if Symbol.isWordChar c then
      readOn (buffer.push c) rest
    else if !buffer.isEmpty then
      if c = ':' ∧ isScheme buffer then
        takeAddress ⟨rest, buffer, none, false⟩ c
      else
        -- What ends the word may itself be a mark.
        takeWord ⟨rest, buffer, (Mark.ofChar? c).map .mark, false⟩
    else
      match Mark.ofChar? c with
      | some mark => (.mark mark, ⟨rest, buffer, none, false⟩)
      | none => readOn buffer rest

/-- The next symbol and the state after it, none after the stop. -/
def next? (reading : Reading) : Option (Symbol × Reading) :=
  match reading.pending with
  | some symbol => some (symbol, { reading with pending := none })
  | none => if reading.done then none else some (readOn reading.buffer reading.chars)

/-- The number of symbols that may still come is at most this. -/
def measure (reading : Reading) : Nat :=
  2 * reading.chars.length + (if reading.pending.isSome then 1 else 0) + if reading.done then 0 else 2

theorem length_takeTail_le (address : String) (rest : List Char) :
    (takeTail address rest).2.length ≤ rest.length := by
  fun_induction takeTail address rest with
  | case1 | case2 => exact Nat.le_refl _
  | case3 address c rest _ ih => exact Nat.le_succ_of_le ih

theorem measure_readOn_lt (buffer : String) (chars : List Char) :
    (readOn buffer chars).2.measure < 2 * chars.length + 2 := by
  fun_induction readOn buffer chars with
  | case1 | case2 => simp [takeWord, measure]
  | case3 | case7 => simp only [List.length_cons]; omega
  | case4 buffer c rest =>
    have hle := length_takeTail_le (buffer.push c) rest
    simp only [takeAddress, measure, List.length_cons, Option.isSome_none, Bool.false_eq_true, if_false]
    omega
  | case5 buffer c rest =>
    cases Mark.ofChar? c with
    | none => simp [takeWord, measure]
    | some mark =>
      simp only [takeWord, measure, Option.map_some, Option.isSome_some, List.length_cons, if_true,
        Bool.false_eq_true, if_false]
      omega
  | case6 => simp [measure]

theorem measure_lt_of_next? {reading after : Reading} {symbol : Symbol}
    (h : reading.next? = some (symbol, after)) : after.measure < reading.measure := by
  unfold next? at h
  split at h
  next hpending =>
    obtain ⟨-, rfl⟩ := Prod.mk.inj (Option.some.inj h)
    simp [measure, hpending]
  next hpending =>
    split at h
    · cases h
    next hdone =>
      have hlt := measure_readOn_lt reading.buffer reading.chars
      rw [Option.some.inj h] at hlt
      have hmeasure : reading.measure = 2 * reading.chars.length + 2 := by simp [measure, hpending, hdone]
      rwa [hmeasure]

/-- Adds the symbols still to come to `given`, which is reversed. -/
def symbolsOnto (given : List Symbol) (reading : Reading) : List Symbol :=
  match hnext : reading.next? with
  | some (symbol, after) =>
    have := measure_lt_of_next? hnext
    symbolsOnto (symbol :: given) after
  | none => given.reverse
termination_by reading.measure

end Reading

/-- The symbols of a text, until there is none. -/
def symbolsOf (text : String) : List Symbol :=
  (Reading.start text).symbolsOnto []

end Banter
