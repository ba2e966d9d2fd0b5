import Std.Data.ExtTreeMap.Lemmas
import Banter.Fault

/-!
# Lexicons

A lexicon numbers symbols in the order in which they were first entered. It holds each symbol once and
at most as many as there are numbers, and no symbol ever leaves it.
-/

namespace Banter

/-- The rank of a symbol's kind in the order of symbols. -/
def Symbol.rank : Symbol → Nat
  | word _ => 0
  | mark _ => 1
  | address _ => 2
  | stop => 3

/-- Symbols are ordered by kind, then by their characters. -/
def Symbol.order : Symbol → Symbol → Ordering :=
  compareLex (compareOn Symbol.rank) (compareOn Symbol.text)

instance : Std.TransCmp Symbol.order :=
  inferInstanceAs (Std.TransCmp (compareLex (compareOn Symbol.rank) (compareOn Symbol.text)))

theorem Mark.char_injective {a b : Mark} (h : a.char = b.char) : a = b := by
  have := ofChar?_char a
  rw [h, ofChar?_char] at this
  exact (Option.some.inj this).symm

instance : Std.LawfulEqCmp Symbol.order where
  eq_of_compare {a b} h := by
    simp only [Symbol.order, compareLex_eq_eq, compareOn, Std.LawfulEqOrd.compare_eq_iff_eq] at h
    obtain ⟨hrank, htext⟩ := h
    cases a <;> cases b <;> simp_all [Symbol.rank, Symbol.text]
    exact Mark.char_injective htext

/-- The number of symbols that a lexicon can hold. -/
def Lexicon.capacity : Nat := 65536

/-- Symbols with their numbers: the list of the symbols in order, and the number of each. -/
structure Lexicon where
  symbols : Array Symbol
  ids : Std.ExtTreeMap Symbol SymbolId Symbol.order
  size_le : symbols.size ≤ Lexicon.capacity
  ids_iff : ∀ (symbol : Symbol) (id : SymbolId), ids[symbol]? = some id ↔ symbols[id.toNat]? = some symbol

namespace Lexicon

def empty : Lexicon where
  symbols := #[]
  ids := ∅
  size_le := by simp
  ids_iff := by simp

instance : Inhabited Lexicon := ⟨empty⟩

def size (lexicon : Lexicon) : Nat :=
  lexicon.symbols.size

def id? (lexicon : Lexicon) (symbol : Symbol) : Option SymbolId :=
  lexicon.ids[symbol]?

def symbol? (lexicon : Lexicon) (id : SymbolId) : Option Symbol :=
  lexicon.symbols[id.toNat]?

/-- The number of a symbol; a fault names a symbol that was never entered. -/
def idOf (lexicon : Lexicon) (symbol : Symbol) : Except Fault SymbolId :=
  match lexicon.id? symbol with
  | some id => .ok id
  | none => .error (.unknownSymbol symbol)

/-- The symbol with a number; a fault names a number that was never given. -/
def symbolOf (lexicon : Lexicon) (id : SymbolId) : Except Fault Symbol :=
  match lexicon.symbol? id with
  | some symbol => .ok symbol
  | none => .error (.unassignedId id)

def next (lexicon : Lexicon) : SymbolId :=
  UInt16.ofNat lexicon.size

theorem toNat_next {lexicon : Lexicon} (room : lexicon.size < capacity) :
    lexicon.next.toNat = lexicon.size :=
  UInt16.toNat_ofNat_of_lt' room

theorem ids_append_iff {symbols : Array Symbol}
    {ids : Std.ExtTreeMap Symbol SymbolId Symbol.order} {symbol : Symbol} {next : SymbolId}
    (hids : ∀ (other : Symbol) (id : SymbolId), ids[other]? = some id ↔ symbols[id.toNat]? = some other)
    (hnew : ids[symbol]? = none) (hnext : next.toNat = symbols.size) (other : Symbol) (id : SymbolId) :
    (ids.insert symbol next)[other]? = some id ↔ (symbols.push symbol)[id.toNat]? = some other := by
  have hiff := hids other id
  rw [Std.ExtTreeMap.getElem?_insert, Array.getElem?_push]
  by_cases hsame : symbol = other
  · subst hsame
    simp only [Std.LawfulEqCmp.compare_eq_iff_eq, if_true, Option.some.injEq]
    constructor
    · rintro rfl
      simp [hnext]
    · intro h
      split at h
      next hid => exact UInt16.toNat_inj.mp (hnext.trans hid.symm)
      next => exact absurd (hiff.mpr h) (by rw [hnew]; simp)
  · simp only [Std.LawfulEqCmp.compare_eq_iff_eq, hsame, if_false, hiff]
    split
    next hid =>
      simp only [Option.some.injEq, hsame, iff_false]
      rw [hid]
      simp
    next => rfl

def append (lexicon : Lexicon) (symbol : Symbol) (new : lexicon.id? symbol = none)
    (room : lexicon.size < capacity) : Lexicon :=
  let next := lexicon.next
  { symbols := lexicon.symbols.push symbol
    ids := lexicon.ids.insert symbol next
    size_le := by
      rw [Array.size_push]
      exact room
    ids_iff := ids_append_iff lexicon.ids_iff new (toNat_next room) }

/-- Enters a symbol. It keeps the number it has, or takes the next one if there is one left. -/
def enter (lexicon : Lexicon) (symbol : Symbol) : Except Fault SymbolId × Lexicon :=
  match h : lexicon.id? symbol with
  | some id => (.ok id, lexicon)
  | none =>
    if room : lexicon.size < capacity then
      (.ok lexicon.next, lexicon.append symbol h room)
    else
      (.error (.full capacity), lexicon)

/-- Enters symbols in order and adds their numbers to `ids`, up to the first that finds no number. -/
def enterOnto (ids : Array SymbolId) (lexicon : Lexicon) :
    List Symbol → Except Fault (Array SymbolId) × Lexicon
  | [] => (.ok ids, lexicon)
  | symbol :: rest =>
    match lexicon.enter symbol with
    | (.ok id, lexicon) => enterOnto (ids.push id) lexicon rest
    | (.error fault, lexicon) => (.error fault, lexicon)

/-- Enters symbols in order. The symbols entered before a fault stay. -/
def enterAll (lexicon : Lexicon) (symbols : List Symbol) : Except Fault (Array SymbolId) × Lexicon :=
  lexicon.enterOnto #[] symbols

/-- Enters symbols in order, each of which has to be new. -/
def extend (lexicon : Lexicon) : List Symbol → Except Fault Lexicon
  | [] => .ok lexicon
  | symbol :: rest =>
    let position := lexicon.size
    match lexicon.enter symbol with
    | (.ok id, lexicon) =>
      if id.toNat = position then lexicon.extend rest
      else .error (.defective (.repeatedSymbol position))
    | (.error fault, _) => .error fault

/-- The lexicon that lists the given symbols, which have to differ from each other. -/
def ofList (symbols : List Symbol) : Except Fault Lexicon :=
  empty.extend symbols

theorem id?_eq_some_iff {lexicon : Lexicon} {symbol : Symbol} {id : SymbolId} :
    lexicon.id? symbol = some id ↔ lexicon.symbol? id = some symbol :=
  lexicon.ids_iff symbol id

/-- A lexicon is determined by its list of symbols. -/
theorem ext {a b : Lexicon} (h : a.symbols = b.symbols) : a = b := by
  obtain ⟨symbols, ids, hsize, hids⟩ := a
  obtain ⟨symbols', ids', hsize', hids'⟩ := b
  simp only at h
  subst h
  have : ids = ids' := by
    apply Std.ExtTreeMap.ext_getElem?
    intro symbol
    apply Option.ext
    intro id
    rw [hids, hids']
  subst this
  rfl

end Lexicon

end Banter
