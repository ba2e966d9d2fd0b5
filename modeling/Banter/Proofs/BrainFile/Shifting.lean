import Mathlib.Data.Nat.Bitwise
import Banter.Proofs.BrainFile.Prefixes

/-!
# Lengths in a 64-bit word

A length can be written and read by shifting seven bits at a time out of a 64-bit word and into one. The word
loses no bit of a length that is read, since its prefix has at most five bytes.
-/

namespace Banter.BrainFile

theorem toNat_lowBits (byte : UInt8) : (byte &&& 0x7f).toNat = byte.toNat % 128 := by
  rw [UInt8.toNat_and]
  exact Nat.and_two_pow_sub_one_eq_mod byte.toNat 7

theorem toNat_withHighBit {byte : UInt8} (h : byte.toNat < 128) : (byte ||| 0x80).toNat = byte.toNat + 128 := by
  rw [UInt8.toNat_or, Nat.or_comm, Nat.add_comm]
  exact (Nat.two_pow_add_eq_or_of_lt (i := 7) h 1).symm

theorem highBit_eq_zero_iff (byte : UInt8) : byte &&& 0x80 = 0 ↔ byte < 128 := by
  have hbit : (byte &&& 0x80).toNat = (byte.toNat.testBit 7).toNat * 2 ^ 7 := by
    rw [UInt8.toNat_and]
    exact Nat.and_two_pow byte.toNat 7
  have hlt := byte.toNat_lt
  have h128 : (128 : UInt8).toNat = 128 := rfl
  have h0 : (0 : UInt8).toNat = 0 := rfl
  rw [← UInt8.toNat_inj, hbit, UInt8.lt_iff_toNat_lt, Nat.testBit_eq_decide_div_mod_eq, h128, h0]
  simp only [Nat.reducePow, Nat.mul_eq_zero, Bool.toNat_eq_zero, decide_eq_false_iff_not]
  omega

theorem toNat_shiftRight_seven (length : UInt64) : (length >>> 7).toNat = length.toNat / 128 := by
  rw [UInt64.toNat_shiftRight]
  exact Nat.shiftRight_eq_div_pow length.toNat 7

/-- The bytes of a length, by shifting it out of a word. -/
def shiftedBytes (length : UInt64) : List UInt8 :=
  if length < 128 then [length.toUInt8]
  else (length.toUInt8 &&& 0x7f ||| 0x80) :: shiftedBytes (length >>> 7)
termination_by length.toNat
decreasing_by
  rename_i h
  rw [UInt64.lt_iff_toNat_lt] at h
  rw [toNat_shiftRight_seven]
  exact Nat.div_lt_self (Nat.lt_of_lt_of_le (by decide) (Nat.not_lt.mp h)) (by decide)

/-- Shifting a length out of a word writes the bytes of the length. -/
theorem shiftedBytes_eq_lengthBytes (length : UInt64) : shiftedBytes length = lengthBytes length.toNat := by
  fun_induction shiftedBytes length with
  | case1 length hlt =>
    have hlast : length.toNat < 128 := UInt64.lt_iff_toNat_lt.mp hlt
    rw [lengthBytes, if_pos hlast]
    rfl
  | case2 length hge ih =>
    have hmore : ¬length.toNat < 128 := fun hlt => hge (UInt64.lt_iff_toNat_lt.mpr hlt)
    have hlow : (length.toUInt8 &&& 0x7f).toNat = length.toNat % 128 := by
      rw [toNat_lowBits, UInt64.toNat_toUInt8]
      omega
    have hbyte : length.toUInt8 &&& 0x7f ||| 0x80 = UInt8.ofNat (length.toNat % 128 + 128) := by
      apply UInt8.toNat_inj.mp
      have hsmall : length.toNat % 128 + 128 < 256 := by omega
      rw [toNat_withHighBit (by omega), hlow, UInt8.toNat_ofNat_of_lt' hsmall]
    rw [lengthBytes, if_neg hmore, ih, hbyte, toNat_shiftRight_seven]

/-- A length as far as it is gathered, and the place of the next bits. -/
structure Gathering where
  length : UInt64
  shift : UInt64

namespace Gathering

def start : Gathering :=
  ⟨0, 0⟩

/-- Puts the low bits of a byte in their place. -/
def add (gathering : Gathering) (byte : UInt8) : Gathering :=
  ⟨gathering.length ||| (byte &&& 0x7f).toUInt64 <<< gathering.shift, gathering.shift + 7⟩

/-- Gathers a length up to the byte that announces no other, unless it has no place for more than 35 bits. -/
def read (gathering : Gathering) (bytes : List UInt8) : Except Fault (UInt64 × List UInt8) :=
  if 35 ≤ gathering.shift then defect .longLength
  else match bytes with
    | [] => defect .endOfFile
    | byte :: rest =>
      if byte &&& 0x80 = 0 then .ok ((gathering.add byte).length, rest) else (gathering.add byte).read rest

/-- Whether a gathering holds what bytes make, and has its next place right above. -/
structure Holds (gathering : Gathering) (bytes : List UInt8) : Prop where
  length_eq : gathering.length.toNat = sevenBits bytes
  shift_eq : gathering.shift.toNat = 7 * bytes.length

theorem holds_start : start.Holds [] :=
  ⟨rfl, rfl⟩

/-- The bits of a byte fall into a place where the word has none yet, and none of them falls out of it. -/
theorem Holds.add {gathering : Gathering} {bytes : List UInt8} (h : gathering.Holds bytes)
    (hroom : bytes.length < 5) (byte : UInt8) : (gathering.add byte).Holds (bytes ++ [byte]) := by
  obtain ⟨hlength, hshift⟩ := h
  have hpow : 2 ^ (7 * bytes.length) = 128 ^ bytes.length := Nat.pow_mul 2 7 bytes.length
  -- Four bytes are held at most, so that the highest of the new bits is the 35th.
  have hfits : byte.toNat % 128 * 128 ^ bytes.length < 2 ^ 64 := by
    have hle : 128 ^ bytes.length ≤ 128 ^ 4 := Nat.pow_le_pow_right (by decide) (Nat.le_of_lt_succ hroom)
    have hlow : byte.toNat % 128 < 128 := Nat.mod_lt _ (by decide)
    calc byte.toNat % 128 * 128 ^ bytes.length ≤ 127 * 128 ^ 4 := Nat.mul_le_mul (by omega) hle
      _ < 2 ^ 64 := by decide
  have hplace : 7 * bytes.length % 64 = 7 * bytes.length := Nat.mod_eq_of_lt (by omega)
  have hplaced : ((byte &&& 0x7f).toUInt64 <<< gathering.shift).toNat =
      2 ^ (7 * bytes.length) * (byte.toNat % 128) := by
    rw [UInt64.toNat_shiftLeft, UInt8.toNat_toUInt64, toNat_lowBits, hshift, hplace,
      Nat.shiftLeft_eq, hpow, Nat.mod_eq_of_lt hfits, Nat.mul_comm]
  constructor
  · rw [Gathering.add, UInt64.toNat_or, hplaced, hlength, Nat.or_comm,
      ← Nat.two_pow_add_eq_or_of_lt (hpow ▸ sevenBits_lt bytes), hpow, sevenBits_append, Nat.add_comm]
    simp [sevenBits]
  · rw [Gathering.add, UInt64.toNat_add, hshift, List.length_append, List.length_singleton]
    have hseven : (7 : UInt64).toNat = 7 := rfl
    omega

theorem Holds.foldl {gathering : Gathering} {front bytes : List UInt8} (h : gathering.Holds front)
    (hroom : front.length + bytes.length ≤ 5) : (bytes.foldl Gathering.add gathering).Holds (front ++ bytes) := by
  induction bytes generalizing gathering front with
  | nil => rwa [List.append_nil]
  | cons byte bytes ih =>
    rw [List.length_cons] at hroom
    have hrest := ih (h.add (by omega) byte) (by rw [List.length_append, List.length_singleton]; omega)
    rwa [List.append_assoc] at hrest

/-- Gathering goes on as reading a length without bounds does, from what it holds. -/
theorem Holds.read {gathering : Gathering} {front : List UInt8} (h : gathering.Holds front) {limit : Nat}
    (hlimit : front.length + limit = 5) (bytes : List UInt8) :
    gathering.read bytes = (readLengthWithin limit bytes).map fun (length, rest) =>
      (UInt64.ofNat (sevenBits front + 128 ^ front.length * length), rest) := by
  have h35 : (35 : UInt64).toNat = 35 := rfl
  induction limit generalizing gathering front bytes with
  | zero =>
    have hfull : 35 ≤ gathering.shift := by
      rw [UInt64.le_iff_toNat_le, h.shift_eq]
      omega
    cases bytes <;> rw [Gathering.read, if_pos hfull] <;> rfl
  | succ limit ih =>
    have hroom : ¬35 ≤ gathering.shift := by
      rw [UInt64.le_iff_toNat_le, h.shift_eq]
      omega
    cases bytes with
    | nil =>
      rw [Gathering.read, if_neg hroom]
      rfl
    | cons byte rest =>
      have hadd := h.add (by omega) byte
      have hlength := hadd.length_eq
      rw [sevenBits_append] at hlength
      rw [Gathering.read, if_neg hroom]
      by_cases hlast : byte < 128
      · rw [if_pos ((highBit_eq_zero_iff byte).mpr hlast), readLengthWithin_low hlast]
        simp only [Except.map, ← hlength, UInt64.ofNat_toNat]
      · have hmore : ¬byte &&& 0x80 = 0 := fun hzero => hlast ((highBit_eq_zero_iff byte).mp hzero)
        rw [if_neg hmore, readLengthWithin_high (UInt8.not_lt.mp hlast),
          ih hadd (by rw [List.length_append, List.length_singleton]; omega)]
        cases readLengthWithin limit rest with
        | error fault => rfl
        | ok found =>
          simp only [Except.map, sevenBits_append, List.length_append, List.length_singleton, Nat.pow_succ,
            Nat.mul_assoc, Nat.mul_add, Nat.add_assoc]

/-- Gathering a length in a word gives what reading it without bounds gives. -/
theorem read_start (bytes : List UInt8) :
    start.read bytes =
      (readLengthWithin lengthBytesLimit bytes).map fun (length, rest) => (UInt64.ofNat length, rest) := by
  have hempty : ([] : List UInt8).length + lengthBytesLimit = 5 := rfl
  rw [holds_start.read hempty]
  cases readLengthWithin lengthBytesLimit bytes <;> simp [Except.map, sevenBits]

/-- What is gathered from at most five bytes is all that they make, and needs no more than 35 bits. -/
theorem gathered_of_length_le {bytes : List UInt8} (h : bytes.length ≤ 5) :
    (bytes.foldl Gathering.add start).length.toNat = sevenBits bytes ∧ sevenBits bytes < 2 ^ 35 := by
  have hholds : (bytes.foldl Gathering.add start).Holds bytes := holds_start.foldl (by simpa using h)
  exact ⟨hholds.length_eq, Nat.lt_of_lt_of_le (sevenBits_lt bytes) (Nat.pow_le_pow_right (by decide) h)⟩

end Gathering

/-- A text is read back exactly if it has fewer than 2 ^ 35 bytes: its length is then written with at most five
bytes, of which none can be spared. Any longer text meets a defect. Whatever is read, the length is taken from at
most five bytes, and a 64-bit word in which it is gathered holds all its bits. -/
theorem readText_length_limits :
    (∀ (text : String) (rest : List UInt8), (Text.toUtf8 text).length < 2 ^ 35 →
      readText (textBytes text ++ rest) = .ok (text, rest) ∧
      (lengthBytes (Text.toUtf8 text).length).length ≤ 5 ∧
      Denotes (lengthBytes (Text.toUtf8 text).length) (Text.toUtf8 text).length ∧
      ∀ code, Denotes code (Text.toUtf8 text).length →
        (lengthBytes (Text.toUtf8 text).length).length ≤ code.length) ∧
    (∀ (text : String) (rest : List UInt8), 2 ^ 35 ≤ (Text.toUtf8 text).length →
      readText (textBytes text ++ rest) = .error (.defective .longLength)) ∧
    Defect.longLength.message = "string length prefix too long" ∧
    (∀ length : UInt64, shiftedBytes length = lengthBytes length.toNat) ∧
    (∀ bytes : List UInt8, ReadsText bytes (readText bytes) ∧
      Gathering.start.read bytes =
        (readLengthWithin lengthBytesLimit bytes).map fun (length, rest) => (UInt64.ofNat length, rest)) ∧
    ∀ front : List UInt8, front.length ≤ 5 →
      (front.foldl Gathering.add .start).length.toNat = sevenBits front ∧ sevenBits front < 2 ^ 35 := by
  refine ⟨?_, ?_, rfl, shiftedBytes_eq_lengthBytes, fun bytes => ⟨readsText bytes, Gathering.read_start bytes⟩,
    fun _ => Gathering.gathered_of_length_le⟩
  · intro text rest hshort
    have hwithin : (Text.toUtf8 text).length < 128 ^ (4 + 1) := hshort
    exact ⟨(settles_readText text rest).1 hshort, length_lengthBytes_le_of_lt hwithin,
      denotes_lengthBytes _, fun _ => length_lengthBytes_le⟩
  · intro text rest hlong
    have hbeyond : 128 ^ (4 + 1) ≤ (Text.toUtf8 text).length := hlong
    have hread := readLengthWithin_lengthBytes_of_le hbeyond (Text.toUtf8 text ++ rest)
    rw [← List.append_assoc] at hread
    exact readText_of_defect hread

private theorem length_toUtf8_replicate (count : Nat) :
    (Text.toUtf8 (String.ofList (List.replicate count 'X'))).length = count := by
  have hsize (text : String) : (Text.toUtf8 text).length = text.utf8ByteSize := Array.length_toList
  rw [hsize]
  induction count with
  | zero => rfl
  | succ count ih =>
    rw [List.replicate_succ, String.ofList_cons, String.utf8ByteSize_append, String.utf8ByteSize_singleton, ih]
    exact Nat.add_comm 1 count

theorem readText_length_limits_last :
    let text (count : Nat) := String.ofList (List.replicate count 'X')
    readText (textBytes (text (2 ^ 35 - 1)) ++ [7]) = .ok (text (2 ^ 35 - 1), [7]) ∧
      readText (textBytes (text (2 ^ 35)) ++ [7]) = .error (.defective .longLength) ∧
      Gathering.start.read [255, 255, 255, 255, 127, 7] = .ok (0x7ffffffff, [7]) ∧
      ([255, 255, 255, 255, 127].foldl Gathering.add .start).length.toNat = 2 ^ 35 - 1 := by
  intro text
  have hlength (count : Nat) : (Text.toUtf8 (text count)).length = count := length_toUtf8_replicate count
  obtain ⟨hshort, hlong, _, _, hread, hgathered⟩ := readText_length_limits
  refine ⟨(hshort _ [7] ?_).1, hlong _ [7] ?_, ?_, ?_⟩
  · rw [hlength]
    decide
  · rw [hlength]
  · rw [(hread _).2]
    rfl
  · rw [(hgathered _ (by decide)).1]
    decide

end Banter.BrainFile
