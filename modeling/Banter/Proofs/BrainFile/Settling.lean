import Mathlib.Algebra.GroupWithZero.Nat
import Banter.BrainFile.Bytes
import Banter.BrainFile.Reader
import Banter.Proofs.Lexicon.Entering
import Banter.Proofs.Trie.Paths

/-!
# Reading what was written

Each reader meets the bytes of the writer beside it, with any bytes after them. Either the value has a
property that makes the reader give it back and stop just behind it, or the reader meets a defect.
-/

namespace Banter.BrainFile

/-- A reader settles a value by its bytes, whatever comes after them: a good value is read back, and any
other is a defect. -/
def Settles {α : Type} (item : Reader α) (value : α) (bytes : List UInt8) (good : Prop) : Prop :=
  ∀ rest, (good → item (bytes ++ rest) = .ok (value, rest)) ∧
    (¬good → ∃ cause, item (bytes ++ rest) = defect cause)

theorem readWord_wordBytes (word : UInt16) (rest : List UInt8) :
    readWord (wordBytes word ++ rest) = .ok (word, rest) := by
  have hword : word.toUInt8.toUInt16 + (word >>> 8).toUInt8.toUInt16 * 256 = word := by
    apply UInt16.toNat_inj.mp
    have := UInt16.toNat_lt word
    simp [Nat.shiftRight_eq_div_pow]
    omega
  rw [wordBytes, List.cons_append, List.cons_append, List.nil_append, readWord, hword]

theorem readLengthWithin_last {length : Nat} (h : length < 128) (limit : Nat) (rest : List UInt8) :
    readLengthWithin (limit + 1) (UInt8.ofNat length :: rest) = .ok (length, rest) := by
  have hbyte : (UInt8.ofNat length).toNat = length :=
    UInt8.toNat_ofNat_of_lt' (Nat.lt_trans h (by decide))
  have hlast : UInt8.ofNat length < 128 := by
    rw [UInt8.lt_iff_toNat_lt, hbyte]
    exact h
  simp [readLengthWithin, readByte, bind, Except.bind, pure, Except.pure, hlast, hbyte]

theorem readLengthWithin_more {low : Nat} (h : low < 128) (limit : Nat) (rest : List UInt8) :
    readLengthWithin (limit + 1) (UInt8.ofNat (low + 128) :: rest) =
      (readLengthWithin limit rest).map fun (higher, rest) => (low + 128 * higher, rest) := by
  have hbyte : (UInt8.ofNat (low + 128)).toNat = low + 128 :=
    UInt8.toNat_ofNat_of_lt' (Nat.lt_of_lt_of_eq (Nat.add_lt_add_right h 128) rfl)
  have hmore : ¬UInt8.ofNat (low + 128) < 128 := by
    rw [UInt8.lt_iff_toNat_lt, hbyte]
    simp
  simp only [readLengthWithin, readByte, bind, Except.bind, pure, Except.pure, hmore, if_false, hbyte,
    Nat.add_sub_cancel]
  cases readLengthWithin limit rest <;> rfl

/-- A length is read back if its bytes are few enough. -/
theorem readLengthWithin_lengthBytes {limit length : Nat} (h : length < 128 ^ (limit + 1))
    (rest : List UInt8) :
    readLengthWithin (limit + 1) (lengthBytes length ++ rest) = .ok (length, rest) := by
  induction limit generalizing length with
  | zero =>
    have hlt : length < 128 := by simpa using h
    rw [lengthBytes, if_pos hlt, List.singleton_append, readLengthWithin_last hlt]
  | succ limit ih =>
    rw [lengthBytes]
    split
    next hlt => rw [List.singleton_append, readLengthWithin_last hlt]
    next hge =>
      have hhigher : length / 128 < 128 ^ (limit + 1) := by
        rw [Nat.pow_succ] at h
        exact Nat.div_lt_of_lt_mul (by omega)
      rw [List.cons_append, readLengthWithin_more (Nat.mod_lt _ (by decide)), ih hhigher]
      simp only [Except.map]
      congr 2
      omega

theorem readLengthWithin_lengthBytes_of_le {limit length : Nat} (h : 128 ^ (limit + 1) ≤ length)
    (rest : List UInt8) :
    readLengthWithin (limit + 1) (lengthBytes length ++ rest) = defect .longLength := by
  induction limit generalizing length with
  | zero =>
    have hge : ¬length < 128 := by simpa using h
    rw [lengthBytes, if_neg hge, List.cons_append, readLengthWithin_more (Nat.mod_lt _ (by decide)),
      readLengthWithin]
    rfl
  | succ limit ih =>
    have hhigher : 128 ^ (limit + 1) ≤ length / 128 := by
      rw [Nat.pow_succ] at h
      exact (Nat.le_div_iff_mul_le (by decide)).mpr h
    have hge : ¬length < 128 := by
      have hpos : 0 < 128 ^ (limit + 1) := Nat.pow_pos (by decide)
      omega
    rw [lengthBytes, if_neg hge, List.cons_append, readLengthWithin_more (Nat.mod_lt _ (by decide)),
      ih hhigher]
    rfl

theorem readBytes_append (front rest : List UInt8) :
    readBytes front.length (front ++ rest) = .ok (front, rest) := by
  simp [readBytes]

theorem settles_readText (text : String) :
    Settles readText text (textBytes text) ((Text.toUtf8 text).length < 2 ^ 35) := by
  intro rest
  rw [textBytes, List.append_assoc, readText]
  constructor
  · intro hshort
    have hlength : (Text.toUtf8 text).length < 128 ^ (4 + 1) := hshort
    simp only [lengthBytesLimit, readLengthWithin_lengthBytes hlength, bind, Except.bind,
      readBytes_append, Text.ofUtf8?_toUtf8]
    rfl
  · intro hlong
    have hlength : 128 ^ (4 + 1) ≤ (Text.toUtf8 text).length := Nat.not_lt.mp hlong
    refine ⟨.longLength, ?_⟩
    simp only [lengthBytesLimit, readLengthWithin_lengthBytes_of_le hlength, bind, Except.bind, defect]

theorem Settles.map {α β : Type} {item : Reader α} {value : α} {bytes : List UInt8} {good : Prop}
    (h : Settles item value bytes good) (f : α → β) :
    Settles (fun bytes => (item bytes).map fun (value, rest) => (f value, rest)) (f value) bytes good := by
  intro rest
  obtain ⟨hgood, hbad⟩ := h rest
  constructor
  · intro hvalue
    simp only [hgood hvalue, Except.map]
  · intro hvalue
    obtain ⟨cause, hcause⟩ := hbad hvalue
    exact ⟨cause, by simp only [hcause, defect, Except.map]⟩

/-- Whether the length of a symbol's text, if it has one in a file, can be read. -/
def HasShortText : Symbol → Prop
  | .word text | .address text => (Text.toUtf8 text).length < 2 ^ 35
  | .mark _ | .stop => True

instance : DecidablePred HasShortText
  | .word text | .address text => inferInstanceAs (Decidable ((Text.toUtf8 text).length < 2 ^ 35))
  | .mark _ | .stop => inferInstanceAs (Decidable True)

private theorem readSymbol_wordTag (bytes : List UInt8) :
    readSymbol (wordTag :: bytes) = (readText bytes).map fun (text, rest) => (.word text, rest) := by
  simp only [readSymbol, readByte, bind, Except.bind, pure, Except.pure, wordTag, markTag]
  cases readText bytes <;> rfl

private theorem readSymbol_addressTag (bytes : List UInt8) :
    readSymbol (addressTag :: bytes) =
      (readText bytes).map fun (text, rest) => (.address text, rest) := by
  simp only [readSymbol, readByte, bind, Except.bind, pure, Except.pure, addressTag, wordTag, markTag,
    stopTag]
  cases readText bytes <;> rfl

theorem settles_readSymbol (symbol : Symbol) :
    Settles readSymbol symbol (symbolBytes symbol) (HasShortText symbol) := by
  intro rest
  cases symbol with
  | word text =>
    rw [symbolBytes, List.cons_append, readSymbol_wordTag]
    exact (settles_readText text).map Symbol.word rest
  | mark kind =>
    refine ⟨fun _ => ?_, fun hlong => absurd trivial hlong⟩
    simp [symbolBytes, readSymbol, readByte, bind, Except.bind, pure, Except.pure]
  | address text =>
    rw [symbolBytes, List.cons_append, readSymbol_addressTag]
    exact (settles_readText text).map Symbol.address rest
  | stop =>
    exact ⟨fun _ => rfl, fun hlong => absurd trivial hlong⟩

theorem settles_readOnto {α : Type} {item : Reader α} {write : α → List UInt8} {good : α → Prop}
    {values : List α} (hitem : ∀ value ∈ values, Settles item value (write value) (good value))
    (done : Array α) :
    Settles (readOnto item values.length done) (done ++ values.toArray) (values.flatMap write)
      (∀ value ∈ values, good value) := by
  induction values generalizing done with
  | nil =>
    intro rest
    simp [readOnto]
  | cons first values ih =>
    intro rest
    have hfirst := hitem first List.mem_cons_self
    have hvalues := ih (fun value hvalue => hitem value (List.mem_cons_of_mem _ hvalue)) (done.push first)
    obtain ⟨hgood, hbad⟩ := hfirst (values.flatMap write ++ rest)
    obtain ⟨hgood', hbad'⟩ := hvalues rest
    rw [List.flatMap_cons, List.append_assoc, List.length_cons, readOnto, List.forall_mem_cons]
    constructor
    · intro hboth
      obtain ⟨hone, hall⟩ := hboth
      simp only [hgood hone, hgood' hall]
      simp
    · intro hnot
      by_cases hone : good first
      · simp only [hgood hone]
        exact hbad' fun hall => hnot ⟨hone, hall⟩
      · obtain ⟨cause, hcause⟩ := hbad hone
        exact ⟨cause, by simp only [hcause, defect]⟩

/-- A sequence is read back if each of its items is. -/
theorem settles_readMany {α : Type} {item : Reader α} {write : α → List UInt8} {good : α → Prop}
    {values : Array α} (hitem : ∀ value ∈ values, Settles item value (write value) (good value)) :
    Settles (readMany item values.size) values (values.toList.flatMap write)
      (∀ value ∈ values, good value) := by
  have hlist : ∀ value ∈ values.toList, Settles item value (write value) (good value) := by
    intro value hvalue
    exact hitem value (Array.mem_toList_iff.mp hvalue)
  simpa [readMany] using settles_readOnto hlist #[]

end Banter.BrainFile
