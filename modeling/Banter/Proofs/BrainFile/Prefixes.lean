import Mathlib.Data.Nat.Digits.Defs
import Banter.Proofs.BrainFile.Lengths

/-!
# Prefixes that denote a length

A prefix denotes the number whose digits to the base 128 are the low seven bits of its bytes, the lowest digit
first. The reader of texts takes the prefix that is in front, if it has at most five bytes.
-/

namespace Banter.BrainFile

/-- The number that bytes make with seven bits each, the lowest first. -/
def sevenBits (bytes : List UInt8) : Nat :=
  Nat.ofDigits 128 (bytes.map (·.toNat % 128))

theorem sevenBits_cons (byte : UInt8) (bytes : List UInt8) :
    sevenBits (byte :: bytes) = byte.toNat % 128 + 128 * sevenBits bytes := by
  rw [sevenBits, List.map_cons, Nat.ofDigits_cons, ← sevenBits]

theorem sevenBits_singleton (byte : UInt8) : sevenBits [byte] = byte.toNat % 128 := by
  rw [sevenBits, List.map_singleton, Nat.ofDigits_singleton]

theorem sevenBits_append (front back : List UInt8) :
    sevenBits (front ++ back) = sevenBits front + 128 ^ front.length * sevenBits back := by
  rw [sevenBits, List.map_append, Nat.ofDigits_append, List.length_map, ← sevenBits, ← sevenBits]

theorem sevenBits_lt (bytes : List UInt8) : sevenBits bytes < 128 ^ bytes.length := by
  have hdigits : ∀ digit ∈ bytes.map (·.toNat % 128), digit < 128 := by
    intro digit hdigit
    obtain ⟨byte, _, rfl⟩ := List.mem_map.mp hdigit
    exact Nat.mod_lt _ (by decide)
  have hlt := Nat.ofDigits_lt_base_pow_length (by decide) hdigits
  rwa [List.length_map] at hlt

/-- Whether a prefix denotes a length: each byte but the last announces another one, and their low bits make
the length. -/
structure Denotes (code : List UInt8) (length : Nat) : Prop where
  ends : ∃ front last, code = front ++ [last] ∧ (∀ byte ∈ front, 128 ≤ byte) ∧ last < 128
  value : sevenBits code = length

theorem readLengthWithin_low {byte : UInt8} (h : byte < 128) (limit : Nat) (bytes : List UInt8) :
    readLengthWithin (limit + 1) (byte :: bytes) = .ok (sevenBits [byte], bytes) := by
  have hlow : sevenBits [byte] = byte.toNat := by
    rw [sevenBits_singleton]
    exact Nat.mod_eq_of_lt (UInt8.lt_iff_toNat_lt.mp h)
  rw [readLengthWithin_cons, if_pos h, hlow]

theorem readLengthWithin_high {byte : UInt8} (h : 128 ≤ byte) (limit : Nat) (bytes : List UInt8) :
    readLengthWithin (limit + 1) (byte :: bytes) =
      (readLengthWithin limit bytes).map fun (higher, rest) => (sevenBits [byte] + 128 * higher, rest) := by
  have hlow : sevenBits [byte] = byte.toNat - 128 := by
    have hge : 128 ≤ byte.toNat := UInt8.le_iff_toNat_le.mp h
    have hlt := byte.toNat_lt
    rw [sevenBits_singleton]
    omega
  rw [readLengthWithin_cons, if_neg (UInt8.not_lt.mpr h), hlow]

/-- What announces more bytes is read before them. -/
theorem readLengthWithin_append {front : List UInt8} (h : ∀ byte ∈ front, 128 ≤ byte) (limit : Nat)
    (bytes : List UInt8) :
    readLengthWithin (front.length + limit) (front ++ bytes) =
      (readLengthWithin limit bytes).map fun (higher, rest) =>
        (sevenBits front + 128 ^ front.length * higher, rest) := by
  induction front with
  | nil =>
    rw [List.length_nil, Nat.zero_add, List.nil_append]
    cases readLengthWithin limit bytes <;> simp [Except.map, sevenBits]
  | cons byte front ih =>
    obtain ⟨hbyte, hfront⟩ := List.forall_mem_cons.mp h
    rw [List.length_cons, Nat.add_right_comm, List.cons_append, readLengthWithin_high hbyte, ih hfront]
    cases readLengthWithin limit bytes with
    | error fault => rfl
    | ok found =>
      simp only [Except.map, sevenBits_cons byte front, Nat.mul_add, ← Nat.mul_assoc, ← Nat.pow_succ',
        ← Nat.add_assoc, sevenBits_singleton]

theorem readLengthWithin_of_denotes {code : List UInt8} {length limit : Nat} (h : Denotes code length)
    (hlimit : code.length ≤ limit) (rest : List UInt8) :
    readLengthWithin limit (code ++ rest) = .ok (length, rest) := by
  obtain ⟨⟨front, last, rfl, hfront, hlast⟩, rfl⟩ := h
  rw [List.length_append, List.length_singleton] at hlimit
  obtain ⟨more, rfl⟩ := Nat.exists_eq_add_of_le hlimit
  rw [List.append_assoc, Nat.add_assoc, readLengthWithin_append hfront, Nat.add_comm 1, List.singleton_append,
    readLengthWithin_low hlast, sevenBits_append]
  rfl

theorem Denotes.cons {byte : UInt8} {code : List UInt8} {length : Nat} (h : Denotes code length)
    (hbyte : 128 ≤ byte) : Denotes (byte :: code) (byte.toNat % 128 + 128 * length) := by
  obtain ⟨⟨front, last, rfl, hfront, hlast⟩, rfl⟩ := h
  exact ⟨⟨byte :: front, last, rfl, List.forall_mem_cons.mpr ⟨hbyte, hfront⟩, hlast⟩, sevenBits_cons _ _⟩

/-- In front of bytes stands a prefix of at most the given number of bytes, or all those bytes announce more. -/
theorem exists_denotes_or (limit : Nat) (bytes : List UInt8) :
    (∃ code rest length, bytes = code ++ rest ∧ code.length ≤ limit ∧ Denotes code length) ∨
    (bytes.length < limit ∧ ∀ byte ∈ bytes, 128 ≤ byte) ∨
    ∃ front rest, bytes = front ++ rest ∧ front.length = limit ∧ ∀ byte ∈ front, 128 ≤ byte := by
  induction limit generalizing bytes with
  | zero => exact Or.inr (Or.inr ⟨[], bytes, rfl, rfl, by simp⟩)
  | succ limit ih =>
    cases bytes with
    | nil => exact Or.inr (Or.inl ⟨Nat.succ_pos limit, by simp⟩)
    | cons byte bytes =>
      by_cases hlast : byte < 128
      · have hdenotes : Denotes [byte] (sevenBits [byte]) := ⟨⟨[], byte, rfl, by simp, hlast⟩, rfl⟩
        exact Or.inl ⟨[byte], bytes, _, rfl, Nat.succ_le_succ (Nat.zero_le limit), hdenotes⟩
      · have hmore := UInt8.not_lt.mp hlast
        rcases ih bytes with ⟨code, rest, length, rfl, hlength, hdenotes⟩ | ⟨hlength, hall⟩ |
          ⟨front, rest, rfl, rfl, hall⟩
        · exact Or.inl ⟨byte :: code, rest, _, rfl, Nat.succ_le_succ hlength, hdenotes.cons hmore⟩
        · exact Or.inr (Or.inl ⟨Nat.succ_lt_succ hlength, List.forall_mem_cons.mpr ⟨hmore, hall⟩⟩)
        · exact Or.inr (Or.inr ⟨byte :: front, rest, rfl, rfl, List.forall_mem_cons.mpr ⟨hmore, hall⟩⟩)

theorem readLengthWithin_of_short {bytes : List UInt8} {limit : Nat} (hlength : bytes.length < limit)
    (h : ∀ byte ∈ bytes, 128 ≤ byte) : readLengthWithin limit bytes = defect .endOfFile := by
  obtain ⟨more, rfl⟩ := Nat.exists_eq_add_of_lt hlength
  have hread := readLengthWithin_append h (more + 1) []
  rw [List.append_nil] at hread
  exact hread

theorem readLengthWithin_of_long {front : List UInt8} (h : ∀ byte ∈ front, 128 ≤ byte) (rest : List UInt8) :
    readLengthWithin front.length (front ++ rest) = defect .longLength :=
  readLengthWithin_append h 0 rest

/-- A length is read just from a prefix that denotes it. -/
theorem readLengthWithin_eq_ok_iff {limit length : Nat} {bytes rest : List UInt8} :
    readLengthWithin limit bytes = .ok (length, rest) ↔
      ∃ code, bytes = code ++ rest ∧ code.length ≤ limit ∧ Denotes code length := by
  constructor
  · intro hread
    rcases exists_denotes_or limit bytes with ⟨code, after, found, rfl, hlength, hdenotes⟩ | ⟨hlength, hall⟩ |
      ⟨front, after, rfl, rfl, hall⟩
    · rw [readLengthWithin_of_denotes hdenotes hlength] at hread
      obtain ⟨rfl, rfl⟩ := Prod.mk.inj (Except.ok.inj hread)
      exact ⟨code, rfl, hlength, hdenotes⟩
    · rw [readLengthWithin_of_short hlength hall] at hread
      exact absurd hread (by simp [defect])
    · rw [readLengthWithin_of_long hall] at hread
      exact absurd hread (by simp [defect])
  · intro hexists
    obtain ⟨code, rfl, hlength, hdenotes⟩ := hexists
    exact readLengthWithin_of_denotes hdenotes hlength rest

theorem Denotes.lt {code : List UInt8} {length : Nat} (h : Denotes code length) : length < 128 ^ code.length := by
  rw [← h.value]
  exact sevenBits_lt code

theorem denotes_lengthBytes (length : Nat) : Denotes (lengthBytes length) length := by
  have hlt : length < 128 ^ (length + 1) := Nat.lt_trans (Nat.lt_succ_self length) (Nat.lt_pow_self (by decide))
  obtain ⟨code, hcode, _, hdenotes⟩ := readLengthWithin_eq_ok_iff.mp (readLengthWithin_lengthBytes hlt [])
  rwa [List.append_cancel_right hcode]

/-- No shorter prefix than the one that is written denotes the same length. -/
theorem length_lengthBytes_le {code : List UInt8} {length : Nat} (h : Denotes code length) :
    (lengthBytes length).length ≤ code.length := by
  have hread := readLengthWithin_of_denotes h (Nat.le_refl _) []
  rw [List.append_nil] at hread
  exact (lengthBytes_le hread).2.1

theorem length_lengthBytes_le_of_lt {length limit : Nat} (h : length < 128 ^ (limit + 1)) :
    (lengthBytes length).length ≤ limit + 1 := by
  obtain ⟨code, hcode, hlimit, _⟩ := readLengthWithin_eq_ok_iff.mp (readLengthWithin_lengthBytes h [])
  rwa [List.append_cancel_right hcode]

theorem readBytes_eq (count : Nat) (bytes : List UInt8) :
    readBytes count bytes =
      if bytes.length < count then defect .endOfFile else .ok (bytes.take count, bytes.drop count) := by
  rw [readBytes, List.length_take]
  by_cases hshort : bytes.length < count
  · rw [if_pos hshort, if_neg (by omega)]
  · rw [if_neg hshort, if_pos (by omega)]

def readContent (length : Nat) : Reader String := fun bytes =>
  if bytes.length < length then defect .endOfFile
  else match Text.ofUtf8? (bytes.take length) with
    | some text => .ok (text, bytes.drop length)
    | none => defect .notUtf8

/-- How a text is read: by the prefix in front of it, unless the bytes end too early or five bytes in front all
announce more. -/
inductive ReadsText (bytes : List UInt8) : Except Fault (String × List UInt8) → Prop where
  | whole {code rest : List UInt8} {length : Nat} (parts : bytes = code ++ rest) (atMostFive : code.length ≤ 5)
      (denotes : Denotes code length) (fits : length < 2 ^ 35) : ReadsText bytes (readContent length rest)
  | cut (lessThanFive : bytes.length < 5) (more : ∀ byte ∈ bytes, 128 ≤ byte) :
      ReadsText bytes (defect .endOfFile)
  | endless {front rest : List UInt8} (parts : bytes = front ++ rest) (five : front.length = 5)
      (more : ∀ byte ∈ front, 128 ≤ byte) : ReadsText bytes (defect .longLength)

theorem readText_of_length {bytes rest : List UInt8} {length : Nat}
    (h : readLengthWithin 5 bytes = .ok (length, rest)) : readText bytes = readContent length rest := by
  rw [readText, lengthBytesLimit, h, readContent]
  by_cases hshort : rest.length < length
  · simp only [bind, Except.bind, readBytes_eq, hshort, if_true]
    rfl
  · simp only [bind, Except.bind, readBytes_eq, hshort, if_false]
    rfl

theorem readText_of_defect {bytes : List UInt8} {cause : Defect} (h : readLengthWithin 5 bytes = defect cause) :
    readText bytes = defect cause := by
  rw [readText, lengthBytesLimit, h]
  rfl

theorem readsText (bytes : List UInt8) : ReadsText bytes (readText bytes) := by
  rcases exists_denotes_or 5 bytes with ⟨code, rest, length, rfl, hlength, hdenotes⟩ | ⟨hlength, hall⟩ |
    ⟨front, rest, rfl, hlength, hall⟩
  · rw [readText_of_length (readLengthWithin_of_denotes hdenotes hlength rest)]
    exact .whole rfl hlength hdenotes (Nat.lt_of_lt_of_le hdenotes.lt (Nat.pow_le_pow_right (by decide) hlength))
  · rw [readText_of_defect (readLengthWithin_of_short hlength hall)]
    exact .cut hlength hall
  · have hread := readLengthWithin_of_long hall rest
    rw [hlength] at hread
    rw [readText_of_defect hread]
    exact .endless rfl hlength hall

end Banter.BrainFile
