import Banter.Proofs.BrainFile.Settling

namespace Banter.BrainFile

/-- The bytes that spell the length at the front: those that announce another one, and the next. -/
def lengthCode (bytes : List UInt8) : List UInt8 :=
  bytes.takeWhile (128 ≤ ·) ++ (bytes.dropWhile (128 ≤ ·)).take 1

/-- Whether bytes spell a length, and no fewer bytes spell the same. -/
def IsShortest (code : List UInt8) : Prop :=
  ∃ length, readLengthWithin lengthBytesLimit code = .ok (length, []) ∧
    ∀ other, readLengthWithin lengthBytesLimit other = .ok (length, []) → code.length ≤ other.length

/-- Whether the bytes of a value are at most as many as those it was read from, and the same just where
these are in normal form. -/
def Shortens (front normal : List UInt8) (isNormal : Prop) : Prop :=
  normal.length ≤ front.length ∧ (normal = front ↔ isNormal)

theorem Shortens.refl (front : List UInt8) : Shortens front front (∀ code ∈ [], IsShortest code) := by
  simp [Shortens]

theorem Shortens.append {front normal front' normal' : List UInt8} {isNormal isNormal' : Prop}
    (h : Shortens front normal isNormal) (h' : Shortens front' normal' isNormal') :
    Shortens (front ++ front') (normal ++ normal') (isNormal ∧ isNormal') := by
  obtain ⟨hle, hiff⟩ := h
  obtain ⟨hle', hiff'⟩ := h'
  constructor
  · rw [List.length_append, List.length_append]
    exact Nat.add_le_add hle hle'
  · rw [← hiff, ← hiff']
    constructor
    · intro heq
      have hlength := congrArg List.length heq
      rw [List.length_append, List.length_append] at hlength
      exact List.append_inj heq (by omega)
    · rintro ⟨rfl, rfl⟩
      rfl

theorem readLengthWithin_cons (limit : Nat) (byte : UInt8) (bytes : List UInt8) :
    readLengthWithin (limit + 1) (byte :: bytes) =
      if byte < 128 then .ok (byte.toNat, bytes)
      else (readLengthWithin limit bytes).map fun (higher, rest) =>
        (byte.toNat - 128 + 128 * higher, rest) := by
  simp only [readLengthWithin, readByte, bind, Except.bind, pure, Except.pure]
  cases readLengthWithin limit bytes <;> rfl

theorem readLengthWithin_lengthCode {limit length : Nat} {bytes rest : List UInt8}
    (h : readLengthWithin limit bytes = .ok (length, rest)) :
    bytes = lengthCode bytes ++ rest ∧ readLengthWithin limit (lengthCode bytes) = .ok (length, []) := by
  induction limit generalizing length bytes with
  | zero => exact absurd h (by simp [readLengthWithin, defect])
  | succ limit ih =>
    cases bytes with
    | nil => exact absurd h (by simp [readLengthWithin, readByte, defect, bind, Except.bind])
    | cons byte bytes =>
      rw [readLengthWithin_cons] at h
      split at h
      next hlast =>
        obtain ⟨rfl, rfl⟩ := Prod.mk.inj (Except.ok.inj h)
        have hcode : lengthCode (byte :: bytes) = [byte] := by
          simp [lengthCode, UInt8.not_le.mpr hlast]
        rw [hcode, readLengthWithin_cons, if_pos hlast]
        exact ⟨rfl, rfl⟩
      next hmore =>
        obtain ⟨⟨higher, after⟩, hhigher, h⟩ := map_eq_ok_iff.mp h
        obtain ⟨rfl, rfl⟩ := Prod.mk.inj h
        obtain ⟨hbytes, halone⟩ := ih hhigher
        have hcode : lengthCode (byte :: bytes) = byte :: lengthCode bytes := by
          simp [lengthCode, UInt8.not_lt.mp hmore]
        rw [hcode, readLengthWithin_cons, if_neg hmore, halone]
        exact ⟨by rw [List.cons_append, ← hbytes], rfl⟩

theorem lengthBytes_more {low higher : Nat} (hlow : low < 128) (hhigher : 0 < higher) :
    lengthBytes (low + 128 * higher) = UInt8.ofNat (low + 128) :: lengthBytes higher := by
  have hmod : (low + 128 * higher) % 128 = low := by omega
  have hdiv : (low + 128 * higher) / 128 = higher := by omega
  rw [lengthBytes, if_neg (by omega), hmod, hdiv]

/-- The bytes that are written for a length are as few as spell it, and no others are as few. -/
theorem lengthBytes_le {limit length : Nat} {code : List UInt8}
    (h : readLengthWithin limit code = .ok (length, [])) :
    length < 128 ^ limit ∧ (lengthBytes length).length ≤ code.length ∧
      ((lengthBytes length).length = code.length → lengthBytes length = code) := by
  induction limit generalizing length code with
  | zero => exact absurd h (by simp [readLengthWithin, defect])
  | succ limit ih =>
    cases code with
    | nil => exact absurd h (by simp [readLengthWithin, readByte, defect, bind, Except.bind])
    | cons byte code =>
      rw [readLengthWithin_cons] at h
      split at h
      next hlast =>
        obtain ⟨rfl, rfl⟩ := Prod.mk.inj (Except.ok.inj h)
        have hlt : byte.toNat < 128 := UInt8.lt_iff_toNat_lt.mp hlast
        have hpow : 0 < 128 ^ limit := Nat.pow_pos (by decide)
        rw [lengthBytes, if_pos hlt, UInt8.ofNat_toNat, Nat.pow_succ]
        exact ⟨by omega, Nat.le_refl _, fun _ => rfl⟩
      next hmore =>
        obtain ⟨⟨higher, after⟩, hhigher, h⟩ := map_eq_ok_iff.mp h
        obtain ⟨rfl, rfl⟩ := Prod.mk.inj h
        obtain ⟨hlt, hle, hunique⟩ := ih hhigher
        have hbyte : ¬byte.toNat < 128 := fun hlt => hmore (UInt8.lt_iff_toNat_lt.mpr hlt)
        have hlow : byte.toNat - 128 < 128 := by
          have := byte.toNat_lt
          omega
        refine ⟨by rw [Nat.pow_succ]; omega, ?_⟩
        rcases Nat.eq_zero_or_pos higher with rfl | hpos
        · -- The length is spelled with a byte that adds nothing to it.
          have hcode : code ≠ [] := by
            rintro rfl
            cases limit <;> simp [readLengthWithin, readByte, defect, bind, Except.bind] at hhigher
          have hlength := List.length_pos_iff.mpr hcode
          rw [Nat.mul_zero, Nat.add_zero, lengthBytes, if_pos hlow, List.length_singleton, List.length_cons]
          exact ⟨by omega, fun heq => absurd heq (by omega)⟩
        · rw [lengthBytes_more hlow hpos, Nat.sub_add_cancel (Nat.not_lt.mp hbyte), UInt8.ofNat_toNat,
            List.length_cons, List.length_cons, List.cons.injEq]
          exact ⟨Nat.succ_le_succ hle, fun heq => ⟨rfl, hunique (Nat.succ.inj heq)⟩⟩

/-- The spelling of a length shortens to the bytes that are written for it. -/
theorem shortens_lengthBytes {length : Nat} {code : List UInt8}
    (h : readLengthWithin lengthBytesLimit code = .ok (length, [])) :
    Shortens code (lengthBytes length) (IsShortest code) := by
  obtain ⟨hlt, hle, hunique⟩ := lengthBytes_le h
  refine ⟨hle, ?_⟩
  constructor
  · rintro rfl
    exact ⟨length, h, fun other hother => (lengthBytes_le hother).2.1⟩
  · rintro ⟨spelled, hspelled, hshortest⟩
    obtain ⟨rfl, _⟩ := Prod.mk.inj (Except.ok.inj (h.symm.trans hspelled))
    have hwritten := readLengthWithin_lengthBytes hlt []
    rw [List.append_nil] at hwritten
    exact hunique (Nat.le_antisymm hle (hshortest _ hwritten))

end Banter.BrainFile
