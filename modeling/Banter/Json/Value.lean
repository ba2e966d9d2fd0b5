import Banter.Json.Number

/-!
# Values in JSON

A value whose place asks for no kind is skipped; it may be nested as deeply as it likes. A value of a kind
that its place does not ask for is a misfit, unless it is malformed itself.
-/

namespace Banter.Json

/-- Reads the rest of a word letter by letter. -/
def readWord : (letters : List Char) → List Char → Except JsonTrouble (List Char)
  | [], input => .ok input
  | _ :: _, [] => .error .incomplete
  | letter :: letters, c :: rest =>
    if c = letter then readWord letters rest else .error .malformed

theorem length_readWord_le {letters input rest : List Char}
    (h : readWord letters input = .ok rest) : rest.length ≤ input.length := by
  fun_induction readWord letters input with
  | case1 => cases h; exact Nat.le_refl _
  | case2 => cases h
  | case3 letters c rest' ih =>
    have := ih h
    simp only [List.length_cons]
    omega
  | case4 => cases h

/-- The rest of the word that a letter begins. -/
def wordAfter? : Char → Option (List Char)
  | 'n' => some ['u', 'l', 'l']
  | 't' => some ['r', 'u', 'e']
  | 'f' => some ['a', 'l', 's', 'e']
  | _ => none

/-- Skips the rest of a value that starts with a character and holds no other value. -/
def skipPlain (c : Char) (rest : List Char) : Except JsonTrouble (List Char) :=
  if c = '"' then
    skipText rest
  else
    match wordAfter? c with
    | some letters => readWord letters rest
    | none =>
      if c = '-' then (readNumeral .malformed rest).map Prod.snd
      else if isDigit c then (readNumeral .malformed (c :: rest)).map Prod.snd
      else .error .malformed

theorem length_skipPlain_le {c : Char} {tail rest : List Char}
    (h : skipPlain c tail = .ok rest) : rest.length ≤ tail.length := by
  unfold skipPlain at h
  split at h
  · exact Nat.le_of_lt (length_skipText_lt h)
  · split at h
    · exact length_readWord_le h
    · split at h
      · obtain ⟨⟨numeral, after⟩, hnumber, rfl⟩ := map_eq_ok_iff.mp h
        exact Nat.le_of_lt (length_readNumeral_lt hnumber)
      · split at h
        · obtain ⟨⟨numeral, after⟩, hnumber, rfl⟩ := map_eq_ok_iff.mp h
          exact Nat.le_of_lt_succ (length_readNumeral_lt hnumber)
        · cases h

def misfit {α : Type} : Except JsonTrouble α → JsonTrouble
  | .ok _ => .misfit
  | .error trouble => trouble

def misfitNumber (input : List Char) : JsonTrouble :=
  match readNumeral .incomplete input with
  | .ok (numeral, _) => if numeral.isTooLarge then .malformed else .misfit
  | .error trouble => trouble

/-- The trouble with a value that starts with a character, where another kind of value has to be. -/
def misfitAt (c : Char) (rest : List Char) : JsonTrouble :=
  if c = '[' ∨ c = '\x7b' then .misfit
  else if c = '"' then misfit (readText rest)
  else
    match wordAfter? c with
    | some letters => misfit (readWord letters rest)
    | none =>
      if c = '-' then misfitNumber rest
      else if isDigit c then misfitNumber (c :: rest)
      else .malformed

inductive Frame where
  | list
  | object
deriving DecidableEq

def Frame.close : Frame → Char
  | list => ']'
  | object => '\x7d'

/-- What has to come next: a value; a key with its value; what follows an opened frame, which is its
close or its first item; or what follows a value, which is a comma or a close. -/
inductive Expected where
  | value
  | key
  | firstItem
  | nextItem
deriving DecidableEq

/-- What an item of a frame begins with. -/
def Frame.item : Frame → Expected
  | list => .value
  | object => .key

theorem Frame.item_ne_firstItem (frame : Frame) : frame.item ≠ .firstItem := by
  cases frame <;> decide

def readColon (input : List Char) : Except JsonTrouble (List Char) :=
  match skipBlanks input with
  | [] => .error .incomplete
  | c :: rest => if c = ':' then .ok rest else .error .malformed

theorem length_readColon_lt {input rest : List Char} (h : readColon input = .ok rest) :
    rest.length < input.length := by
  have hle := length_skipBlanks_le input
  unfold readColon at h
  split at h
  · cases h
  · rename_i c tail hblank
    split at h
    · cases h
      rw [hblank, List.length_cons] at hle
      omega
    · cases h

def skipKey (c : Char) (rest : List Char) : Except JsonTrouble (List Char) :=
  if c = '"' then
    match skipText rest with
    | .ok rest => readColon rest
    | .error trouble => .error trouble
  else
    .error .malformed

theorem length_skipKey_le {c : Char} {tail rest : List Char} (h : skipKey c tail = .ok rest) :
    rest.length ≤ tail.length := by
  unfold skipKey at h
  split at h
  · split at h
    next htext =>
      have := length_skipText_lt htext
      have := length_readColon_lt h
      omega
    next => cases h
  · cases h

/-- Skips what is expected within the frames that are open, the innermost first, up to the close of the
outermost. -/
def skip (frames : List Frame) (expected : Expected) (input : List Char) :
    Except JsonTrouble (List Char) :=
  match hblank : skipBlanks input with
  | [] => if frames.isEmpty ∧ expected = .nextItem then .ok input else .error .incomplete
  | c :: rest =>
    have : (c :: rest).length ≤ input.length := hblank ▸ length_skipBlanks_le input
    match expected, frames with
    | .value, frames =>
      if c = '[' then
        skip (.list :: frames) .firstItem rest
      else if c = '\x7b' then
        skip (.object :: frames) .firstItem rest
      else
        match hplain : skipPlain c rest with
        | .ok after =>
          have := length_skipPlain_le hplain
          skip frames .nextItem after
        | .error trouble => .error trouble
    | .key, frames =>
      match hkey : skipKey c rest with
      | .ok after =>
        have := length_skipKey_le hkey
        skip frames .value after
      | .error trouble => .error trouble
    | .firstItem, frame :: outer =>
      if c = frame.close then skip outer .nextItem rest
      else skip (frame :: outer) frame.item (c :: rest)
    | .nextItem, frame :: outer =>
      if c = frame.close then skip outer .nextItem rest
      else if c = ',' then skip (frame :: outer) frame.item rest
      else .error .malformed
    | .nextItem, [] => .ok input
    | .firstItem, [] => .error .malformed
termination_by 2 * input.length + (if expected = .firstItem then 1 else 0)
decreasing_by
  all_goals simp_all only [List.length_cons, Frame.item_ne_firstItem, if_true, if_false]
  all_goals omega

theorem length_skip_le {frames : List Frame} {expected : Expected} {input rest : List Char}
    (h : skip frames expected input = .ok rest) : rest.length ≤ input.length := by
  fun_induction skip frames expected input with
  | case1 => cases h; exact Nat.le_refl _
  | case14 => cases h; exact Nat.le_refl _
  | case3 | case4 | case5 | case7 | case9 | case10 | case11 | case12 =>
    simp_all only [List.length_cons]
    have := ‹_ → rest.length ≤ _› trivial
    omega
  | case2 | case6 | case8 | case13 | case15 => cases h

def skipValue (input : List Char) : Except JsonTrouble (List Char) :=
  skip [] .value input

theorem length_skipValue_le {input rest : List Char} (h : skipValue input = .ok rest) :
    rest.length ≤ input.length :=
  length_skip_le h

end Banter.Json
