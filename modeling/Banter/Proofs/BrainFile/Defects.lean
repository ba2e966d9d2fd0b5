import Mathlib.Tactic.SplitIfs
import Banter.Proofs.BrainFile.Decoding

/-!
# How reading fails

Each reader fails by a defect of the bytes only. The one fault of another kind that is in reach is a full
lexicon, and a count of 16 bits cannot ask for so many symbols.
-/

namespace Banter.BrainFile

/-- Whether a result, if it is a fault, is a defect of the bytes. -/
def FailsByDefect {α : Type} (result : Except Fault α) : Prop :=
  ∀ fault, result = .error fault → ∃ cause, fault = .defective cause

theorem failsByDefect_ok {α : Type} (value : α) : FailsByDefect (.ok value) := by
  intro fault h
  exact absurd h (by simp)

theorem failsByDefect_defect {α : Type} (cause : Defect) : FailsByDefect (defect cause : Except Fault α) := by
  intro fault h
  exact ⟨cause, (Except.error.inj h).symm⟩

theorem FailsByDefect.bind {α β : Type} {result : Except Fault α} {next : α → Except Fault β}
    (h : FailsByDefect result) (hnext : ∀ value, result = .ok value → FailsByDefect (next value)) :
    FailsByDefect (result >>= next) := by
  cases result with
  | ok value => exact hnext value rfl
  | error fault =>
    obtain ⟨cause, rfl⟩ := h fault rfl
    exact failsByDefect_defect cause

theorem failsByDefect_readByte (bytes : List UInt8) : FailsByDefect (readByte bytes) := by
  cases bytes with
  | nil => exact failsByDefect_defect .endOfFile
  | cons byte rest => exact failsByDefect_ok _

theorem failsByDefect_readWord (bytes : List UInt8) : FailsByDefect (readWord bytes) := by
  unfold readWord
  split
  next => exact failsByDefect_ok _
  next => exact failsByDefect_defect .endOfFile

theorem failsByDefect_readBytes (count : Nat) (bytes : List UInt8) :
    FailsByDefect (readBytes count bytes) := by
  dsimp only [readBytes]
  split
  next => exact failsByDefect_ok _
  next => exact failsByDefect_defect .endOfFile

theorem failsByDefect_readLengthWithin (limit : Nat) (bytes : List UInt8) :
    FailsByDefect (readLengthWithin limit bytes) := by
  induction limit generalizing bytes with
  | zero => exact failsByDefect_defect .longLength
  | succ limit ih =>
    rw [readLengthWithin]
    apply (failsByDefect_readByte bytes).bind
    rintro ⟨byte, rest⟩ -
    dsimp only
    split
    next => exact failsByDefect_ok _
    next => exact (ih rest).bind fun _ _ => failsByDefect_ok _

theorem failsByDefect_readText (bytes : List UInt8) : FailsByDefect (readText bytes) := by
  apply (failsByDefect_readLengthWithin lengthBytesLimit bytes).bind
  rintro ⟨length, afterLength⟩ -
  apply (failsByDefect_readBytes length afterLength).bind
  rintro ⟨content, rest⟩ -
  dsimp only
  split
  next => exact failsByDefect_ok _
  next => exact failsByDefect_defect .notUtf8

theorem failsByDefect_readSymbol (bytes : List UInt8) : FailsByDefect (readSymbol bytes) := by
  apply (failsByDefect_readByte bytes).bind
  rintro ⟨tag, rest⟩ -
  dsimp only
  split_ifs
  · apply (failsByDefect_readByte rest).bind
    rintro ⟨index, rest⟩ -
    dsimp only
    split
    next => exact failsByDefect_ok _
    next => exact failsByDefect_defect (.unknownMark index)
  · exact (failsByDefect_readText rest).bind fun _ _ => failsByDefect_ok _
  · exact failsByDefect_ok _
  · exact (failsByDefect_readText rest).bind fun _ _ => failsByDefect_ok _
  · exact failsByDefect_defect (.unknownTag tag)

private theorem failsByDefect_readOnto {α : Type} {item : Reader α}
    (hitem : ∀ bytes, FailsByDefect (item bytes)) (count : Nat) (done : Array α) (bytes : List UInt8) :
    FailsByDefect (readOnto item count done bytes) := by
  induction count generalizing done bytes with
  | zero => exact failsByDefect_ok _
  | succ count ih =>
    rw [readOnto]
    split
    next value rest _ => exact ih (done.push value) rest
    next fault hfault =>
      obtain ⟨cause, rfl⟩ := hitem bytes fault hfault
      exact failsByDefect_defect cause

theorem failsByDefect_readMany {α : Type} {item : Reader α} (hitem : ∀ bytes, FailsByDefect (item bytes))
    (count : Nat) (bytes : List UInt8) : FailsByDefect (readMany item count bytes) :=
  failsByDefect_readOnto hitem count #[] bytes

theorem failsByDefect_extend {lexicon : Lexicon} {symbols : List Symbol}
    (hroom : lexicon.size + symbols.length ≤ Lexicon.capacity) : FailsByDefect (lexicon.extend symbols) := by
  induction symbols generalizing lexicon with
  | nil => exact failsByDefect_ok _
  | cons symbol symbols ih =>
    rw [List.length_cons] at hroom
    rw [Lexicon.extend]
    rcases lexicon.enter_cases symbol with ⟨id, hid, h⟩ | ⟨_, room, grown, h, hgrown⟩ | ⟨_, hfull, _⟩
    · have hlt := Lexicon.lt_size (Lexicon.id?_eq_some_iff.mp hid)
      simp only [h, Nat.ne_of_lt hlt, if_false]
      exact failsByDefect_defect (.repeatedSymbol lexicon.size)
    · simp only [h, Lexicon.toNat_next room, if_true]
      apply ih
      rw [Lexicon.size_eq_length, hgrown, List.length_append, ← Lexicon.size_eq_length, List.length_singleton]
      omega
    · omega

theorem failsByDefect_readLexicon (bytes : List UInt8) : FailsByDefect (readLexicon bytes) := by
  apply (failsByDefect_readWord bytes).bind
  rintro ⟨count, afterCount⟩ -
  apply (failsByDefect_readMany failsByDefect_readSymbol count.toNat afterCount).bind
  rintro ⟨symbols, rest⟩ hsymbols
  have hroom : Lexicon.empty.size + symbols.toList.length ≤ Lexicon.capacity := by
    rw [Array.length_toList, size_of_readMany hsymbols]
    have hcount := count.toNat_lt
    simp only [Lexicon.size, Lexicon.empty, Lexicon.capacity, Array.size_empty]
    omega
  exact (failsByDefect_extend hroom).bind fun _ _ => failsByDefect_ok _

theorem failsByDefect_readNode (isAllowed : SymbolId → Bool) (mayBranch : Bool) (bytes : List UInt8) :
    FailsByDefect (readNode isAllowed mayBranch bytes) := by
  apply (failsByDefect_readWord bytes).bind
  rintro ⟨id, afterId⟩ -
  dsimp only
  split
  next => exact failsByDefect_defect (.unlistedId id)
  next =>
    apply (failsByDefect_readWord afterId).bind
    rintro ⟨count, rest⟩ -
    dsimp only
    split
    next => exact failsByDefect_defect .tooDeep
    next => exact failsByDefect_ok _

theorem failsByDefect_nodeOf (id : SymbolId) (children : Array Trie) :
    FailsByDefect (nodeOf id children) := by
  unfold nodeOf
  split
  next => exact failsByDefect_ok _
  next => exact failsByDefect_defect (.unsortedChildren id)

theorem failsByDefect_readTrie (isListed : SymbolId → Bool) (depth : Nat) (isAllowed : SymbolId → Bool)
    (bytes : List UInt8) : FailsByDefect (readTrie isListed depth isAllowed bytes) := by
  induction depth generalizing isAllowed bytes with
  | zero => exact (failsByDefect_readNode isAllowed false bytes).bind fun _ _ => failsByDefect_ok _
  | succ depth ih =>
    apply (failsByDefect_readNode isAllowed true bytes).bind
    rintro ⟨⟨id, count⟩, afterNode⟩ -
    apply (failsByDefect_readMany (ih isListed) count.toNat afterNode).bind
    rintro ⟨children, rest⟩ -
    exact (failsByDefect_nodeOf id children).bind fun _ _ => failsByDefect_ok _

/-- Bytes that are no brain file have a defect. -/
theorem failsByDefect_decode (bytes : List UInt8) : FailsByDefect (decode bytes) := by
  apply (failsByDefect_readLexicon bytes).bind
  rintro ⟨lexicon, afterLexicon⟩ -
  apply (failsByDefect_readTrie _ depthLimit _ afterLexicon).bind
  rintro ⟨onward, afterOnward⟩ -
  apply (failsByDefect_readTrie _ depthLimit _ afterOnward).bind
  rintro ⟨backward, rest⟩ -
  dsimp only
  split
  next => exact failsByDefect_ok _
  next => exact failsByDefect_defect (.trailingBytes rest.length)

end Banter.BrainFile
