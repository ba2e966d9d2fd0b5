import Banter.Fault

/-!
# Texts in JSON

A text stands between double quotes. A backslash begins an escape: a letter for a control character, or
`u` and four hexadecimal digits for a UTF-16 unit. A text that is read has to spell whole characters; a
text that is skipped need not.
-/

namespace Banter.Json

def isBlank (c : Char) : Bool :=
  c == ' ' || c == '\n' || c == '\t' || c == '\r'

def skipBlanks (input : List Char) : List Char :=
  input.dropWhile isBlank

theorem length_skipBlanks_le (input : List Char) : (skipBlanks input).length ≤ input.length :=
  (List.dropWhile_sublist isBlank).length_le

/-- The character that a letter after a backslash stands for. -/
def escaped? : Char → Option Char
  | '"' => some '"'
  | '\\' => some '\\'
  | '/' => some '/'
  | 'b' => some '\x08'
  | 'f' => some '\x0c'
  | 'n' => some '\n'
  | 'r' => some '\r'
  | 't' => some '\t'
  | _ => none

def hexDigit? (c : Char) : Option Nat :=
  if '0' ≤ c ∧ c ≤ '9' then some (c.toNat - '0'.toNat)
  else if 'a' ≤ c ∧ c ≤ 'f' then some (c.toNat - 'a'.toNat + 10)
  else if 'A' ≤ c ∧ c ≤ 'F' then some (c.toNat - 'A'.toNat + 10)
  else none

def hexUnit? (a b c d : Char) : Option Nat := do
  return (((← hexDigit? a) * 16 + (← hexDigit? b)) * 16 + (← hexDigit? c)) * 16 + (← hexDigit? d)

/-- Reads a UTF-16 unit. Fewer than four bytes are too few for one, whatever they are. -/
def readUnit : List Char → Except JsonTrouble (Nat × List Char)
  | a :: b :: c :: d :: rest =>
    match hexUnit? a b c d with
    | some unit => .ok (unit, rest)
    | none => .error .malformed
  | few => .error (if (String.ofList few).utf8ByteSize < 4 then .incomplete else .malformed)

/-- Whether a unit is the first of two that make a character. -/
def isLeading (unit : Nat) : Bool :=
  0xD800 ≤ unit && unit ≤ 0xDBFF

/-- Whether a unit is the second of two that make a character. -/
def isTrailing (unit : Nat) : Bool :=
  0xDC00 ≤ unit && unit ≤ 0xDFFF

/-- The character that a leading and a trailing unit make. -/
def joined (leading trailing : Nat) : Char :=
  Char.ofNat (0x10000 + (leading - 0xD800) * 0x400 + (trailing - 0xDC00))

/-- Reads the escaped unit that has to follow a leading one, and gives the character of both. -/
def readTrailing (leading : Nat) : List Char → Except JsonTrouble (Char × List Char)
  | [] => .error .incomplete
  | [c] => .error (if c = '\\' then .incomplete else .malformed)
  | c :: d :: rest =>
    if c = '\\' ∧ d = 'u' then
      match readUnit rest with
      | .ok (trailing, rest) =>
        if isTrailing trailing then .ok (joined leading trailing, rest) else .error .malformed
      | .error trouble => .error trouble
    else
      .error .malformed

def readUnits (input : List Char) : Except JsonTrouble (Char × List Char) :=
  match readUnit input with
  | .ok (unit, rest) =>
    if isLeading unit then readTrailing unit rest
    else if isTrailing unit then .error .malformed
    else .ok (Char.ofNat unit, rest)
  | .error trouble => .error trouble

def readEscape : List Char → Except JsonTrouble (Char × List Char)
  | [] => .error .incomplete
  | c :: rest =>
    if c = 'u' then
      readUnits rest
    else
      match escaped? c with
      | some meant => .ok (meant, rest)
      | none => .error .malformed

def skipEscape : List Char → Except JsonTrouble (List Char)
  | [] => .error .incomplete
  | c :: rest =>
    if c = 'u' then
      (readUnit rest).map Prod.snd
    else if (escaped? c).isSome then
      .ok rest
    else
      .error .malformed

theorem length_readUnit_lt {input rest : List Char} {unit : Nat}
    (h : readUnit input = .ok (unit, rest)) : rest.length < input.length := by
  unfold readUnit at h
  split at h
  · split at h
    · cases h
      simp only [List.length_cons]
      omega
    · cases h
  · cases h

theorem length_readTrailing_lt {leading : Nat} {input rest : List Char} {c : Char}
    (h : readTrailing leading input = .ok (c, rest)) : rest.length < input.length := by
  unfold readTrailing at h
  split at h
  · cases h
  · cases h
  · split at h
    · split at h
      next hunit =>
        have := length_readUnit_lt hunit
        split at h
        · simp only [Except.ok.injEq, Prod.mk.injEq] at h
          obtain ⟨-, rfl⟩ := h
          simp only [List.length_cons]
          omega
        · cases h
      next => cases h
    · cases h

theorem length_readUnits_lt {input rest : List Char} {c : Char}
    (h : readUnits input = .ok (c, rest)) : rest.length < input.length := by
  unfold readUnits at h
  split at h
  next hunit =>
    have := length_readUnit_lt hunit
    split at h
    · have := length_readTrailing_lt h
      omega
    · split at h
      · cases h
      · cases h
        exact this
  next => cases h

theorem length_readEscape_lt {input rest : List Char} {c : Char}
    (h : readEscape input = .ok (c, rest)) : rest.length < input.length := by
  unfold readEscape at h
  split at h
  · cases h
  · split at h
    · have := length_readUnits_lt h
      simp only [List.length_cons]
      omega
    · split at h
      · cases h
        simp
      · cases h

theorem length_skipEscape_lt {input rest : List Char}
    (h : skipEscape input = .ok rest) : rest.length < input.length := by
  unfold skipEscape at h
  split at h
  · cases h
  · split at h
    · obtain ⟨⟨unit, after⟩, hunit, rfl⟩ := map_eq_ok_iff.mp h
      have := length_readUnit_lt hunit
      simp only [List.length_cons]
      omega
    · split at h
      · cases h
        simp
      · cases h

/-- Whether a character may not stand in a text as it is. -/
def isControl (c : Char) : Bool :=
  c.toNat < 0x20

/-- Reads the rest of a text up to its closing quote and adds it to `done`, which is reversed. -/
def readOnto (done : List Char) (input : List Char) : Except JsonTrouble (String × List Char) :=
  match input with
  | [] => .error .incomplete
  | c :: rest =>
    if c = '"' then
      .ok (String.ofList done.reverse, rest)
    else if c = '\\' then
      match h : readEscape rest with
      | .ok (meant, after) =>
        have := length_readEscape_lt h
        readOnto (meant :: done) after
      | .error trouble => .error trouble
    else if isControl c then
      .error .malformed
    else
      readOnto (c :: done) rest
termination_by input.length
decreasing_by all_goals simp_all; try omega

def readText (input : List Char) : Except JsonTrouble (String × List Char) :=
  readOnto [] input

def skipText (input : List Char) : Except JsonTrouble (List Char) :=
  match input with
  | [] => .error .incomplete
  | c :: rest =>
    if c = '"' then
      .ok rest
    else if c = '\\' then
      match h : skipEscape rest with
      | .ok after =>
        have := length_skipEscape_lt h
        skipText after
      | .error trouble => .error trouble
    else if isControl c then
      .error .malformed
    else
      skipText rest
termination_by input.length
decreasing_by all_goals simp_all; try omega

theorem length_readOnto_lt {done input rest : List Char} {text : String}
    (h : readOnto done input = .ok (text, rest)) : rest.length < input.length := by
  fun_induction readOnto done input with
  | case1 => cases h
  | case2 done rest' => cases h; simp
  | case3 done rest' _ meant after hescape hshort ih =>
    have := ih h
    simp only [List.length_cons]
    omega
  | case4 => cases h
  | case5 => cases h
  | case6 done c rest' _ _ _ ih =>
    have := ih h
    simp only [List.length_cons]
    omega

theorem length_readText_lt {input rest : List Char} {text : String}
    (h : readText input = .ok (text, rest)) : rest.length < input.length :=
  length_readOnto_lt h

theorem length_skipText_lt {input rest : List Char}
    (h : skipText input = .ok rest) : rest.length < input.length := by
  fun_induction skipText input with
  | case1 => cases h
  | case2 rest' => cases h; simp
  | case3 rest' _ after hescape hshort ih =>
    have := ih h
    simp only [List.length_cons]
    omega
  | case4 => cases h
  | case5 => cases h
  | case6 c rest' _ _ _ ih =>
    have := ih h
    simp only [List.length_cons]
    omega

def writtenChar (c : Char) : List Char :=
  if c = '"' ∨ c = '\\' then ['\\', c]
  else if c = '\x08' then ['\\', 'b']
  else if c = '\x0c' then ['\\', 'f']
  else if c = '\n' then ['\\', 'n']
  else if c = '\r' then ['\\', 'r']
  else if c = '\t' then ['\\', 't']
  else if isControl c then
    ['\\', 'u', '0', '0', Nat.digitChar (c.toNat / 16), Nat.digitChar (c.toNat % 16)]
  else [c]

def written (text : String) : String :=
  String.ofList ('"' :: text.toList.flatMap writtenChar ++ ['"'])

end Banter.Json
