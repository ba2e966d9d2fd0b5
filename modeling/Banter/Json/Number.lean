import Banter.Json.Text

/-!
# Numbers in JSON

A number has an integer part without needless zeros, and may have a fraction and an exponent. Where a
number is read as one, it has to lie within the range of 64-bit floating point; it is gathered from as
many leading digits as fit a 64-bit word.
-/

namespace Banter.Json

/-- The digits of a number as it is written, and whether its exponent is negative. -/
structure Numeral where
  whole : List Nat
  fraction : List Nat
  isSmall : Bool
  exponent : List Nat

def digit? (c : Char) : Option Nat :=
  if '0' ≤ c ∧ c ≤ '9' then some (c.toNat - '0'.toNat) else none

def isDigit (c : Char) : Bool :=
  (digit? c).isSome

def digitsOf (input : List Char) : List Nat :=
  (input.takeWhile isDigit).filterMap digit?

def afterDigits (input : List Char) : List Char :=
  input.dropWhile isDigit

theorem length_afterDigits_le (input : List Char) :
    (afterDigits input).length ≤ input.length :=
  (List.dropWhile_sublist isDigit).length_le

/-- Reads digits, of which there has to be one. The trouble of a number that ends too early is given. -/
def readDigits (early : JsonTrouble) : List Char → Except JsonTrouble (List Nat × List Char)
  | [] => .error early
  | c :: rest =>
    if isDigit c then .ok (digitsOf (c :: rest), afterDigits rest) else .error .malformed

theorem length_readDigits_lt {early : JsonTrouble} {input rest : List Char} {digits : List Nat}
    (h : readDigits early input = .ok (digits, rest)) : rest.length < input.length := by
  unfold readDigits at h
  split at h
  · cases h
  · rename_i c tail
    split at h
    · cases h
      have := length_afterDigits_le tail
      simp only [List.length_cons]
      omega
    · cases h

/-- Reads the digits before the point. A zero is the only one. -/
def readWhole (early : JsonTrouble) : List Char → Except JsonTrouble (List Nat × List Char)
  | [] => .error early
  | c :: rest =>
    if c = '0' then
      if rest.head?.any isDigit then .error .malformed else .ok ([0], rest)
    else
      readDigits early (c :: rest)

theorem length_readWhole_lt {early : JsonTrouble} {input rest : List Char} {digits : List Nat}
    (h : readWhole early input = .ok (digits, rest)) : rest.length < input.length := by
  unfold readWhole at h
  split at h
  · cases h
  · split at h
    · split at h
      · cases h
      · cases h
        simp
    · exact length_readDigits_lt h

/-- Reads the point and the digits after it, if there is a point. -/
def readFraction (early : JsonTrouble) : List Char → Except JsonTrouble (List Nat × List Char)
  | [] => .ok ([], [])
  | c :: rest => if c = '.' then readDigits early rest else .ok ([], c :: rest)

theorem length_readFraction_le {early : JsonTrouble} {input rest : List Char} {digits : List Nat}
    (h : readFraction early input = .ok (digits, rest)) : rest.length ≤ input.length := by
  unfold readFraction at h
  split at h
  · cases h
    exact Nat.le_refl _
  · split at h
    · have := length_readDigits_lt h
      simp only [List.length_cons]
      omega
    · cases h
      exact Nat.le_refl _

/-- Reads a sign, if there is one, and tells whether it is negative. -/
def readSign : List Char → Bool × List Char
  | [] => (false, [])
  | c :: rest =>
    if c = '-' then (true, rest) else if c = '+' then (false, rest) else (false, c :: rest)

theorem length_readSign_le (input : List Char) : (readSign input).2.length ≤ input.length := by
  unfold readSign
  split
  · exact Nat.le_refl _
  · split
    · simp
    · split <;> simp

/-- Reads an exponent, if there is one. -/
def readExponent (early : JsonTrouble) :
    List Char → Except JsonTrouble ((Bool × List Nat) × List Char)
  | [] => .ok ((false, []), [])
  | c :: rest =>
    if c = 'e' ∨ c = 'E' then
      match readDigits early (readSign rest).2 with
      | .ok (digits, after) => .ok (((readSign rest).1, digits), after)
      | .error trouble => .error trouble
    else
      .ok ((false, []), c :: rest)

theorem length_readExponent_le {early : JsonTrouble} {input rest : List Char}
    {exponent : Bool × List Nat} (h : readExponent early input = .ok (exponent, rest)) :
    rest.length ≤ input.length := by
  unfold readExponent at h
  split at h
  · cases h
    exact Nat.le_refl _
  · rename_i c tail
    split at h
    · split at h
      next hdigits =>
        cases h
        have := length_readDigits_lt hdigits
        have := length_readSign_le tail
        simp only [List.length_cons]
        omega
      next => cases h
    · cases h
      exact Nat.le_refl _

def readNumeral (early : JsonTrouble) (input : List Char) :
    Except JsonTrouble (Numeral × List Char) := do
  let (whole, input) ← readWhole early input
  let (fraction, input) ← readFraction early input
  let ((isSmall, exponent), input) ← readExponent early input
  return (⟨whole, fraction, isSmall, exponent⟩, input)

theorem length_readNumeral_lt {early : JsonTrouble} {input rest : List Char} {numeral : Numeral}
    (h : readNumeral early input = .ok (numeral, rest)) : rest.length < input.length := by
  unfold readNumeral at h
  obtain ⟨⟨whole, afterWhole⟩, hwhole, h⟩ := bind_eq_ok_iff.mp h
  obtain ⟨⟨fraction, afterFraction⟩, hfraction, h⟩ := bind_eq_ok_iff.mp h
  obtain ⟨⟨exponent, afterExponent⟩, hexponent, h⟩ := bind_eq_ok_iff.mp h
  cases h
  have := length_readWhole_lt hwhole
  have := length_readFraction_le hfraction
  have := length_readExponent_le hexponent
  omega

/-- Adds digits to a number while it fits a 64-bit word, and gives the digits that are left. -/
def gather (number : Nat) : List Nat → Nat × List Nat
  | [] => (number, [])
  | digit :: rest =>
    if number * 10 + digit < UInt64.size then gather (number * 10 + digit) rest
    else (number, digit :: rest)

/-- Whether a number of 64 bits, scaled by a power of ten, is beyond all finite floating-point numbers. -/
def overflows (number : Nat) (scale : Int) : Bool :=
  if number = 0 ∨ scale < 0 then false
  else if 308 < scale then true
  else (number.toUInt64.toFloat * Float.ofScientific 1 false scale.toNat).isInf

/-- Whether a number is beyond the range of floating point. -/
def Numeral.isTooLarge (numeral : Numeral) : Bool :=
  let (whole, cut) := gather 0 numeral.whole
  let (number, dropped) := gather whole numeral.fraction
  let kept := numeral.fraction.length - dropped.length
  let exponent : Nat := numeral.exponent.foldl (fun value digit => value * 10 + digit) 0
  let signed : Int := if numeral.isSmall then -(exponent : Int) else exponent
  overflows number ((cut.length : Int) - kept + signed)

end Banter.Json
