import Banter.Json.Record
import Banter.Json.Value

/-!
# A library as documented

The library for JSON is not part of this program. This one stands for it, as it is documented: an object gives
fields by their keys, and may leave out any of them and hold others, which are skipped. A list gives the
fields in order. The first trouble in a text is the one that is told. What is proved of settings asks for the
documented laws only.
-/

namespace Banter.Json

/-- The values of the fields that were given so far. -/
abbrev Draft (record : Record) : Type :=
  (field : record.Field) → Option (record.kind field).Value

namespace Draft

variable {record : Record}

def empty : Draft record :=
  fun _ => none

def give (draft : Draft record) (field : record.Field) (value : (record.kind field).Value) : Draft record :=
  fun other => if h : other = field then some (h ▸ value) else draft other

/-- The values that were given, and the usual ones for the rest. -/
def finish (draft : Draft record) (usual : record.Values) : record.Values :=
  fun field => (draft field).getD (usual field)

end Draft

def readGivenText (input : List Char) : Except JsonTrouble (String × List Char) :=
  match skipBlanks input with
  | [] => .error .incomplete
  | c :: rest => if c = '"' then readText rest else .error (misfitAt c rest)

/-- Reads the value of a field: a text, or where it is optional also null. -/
def readGiven : (kind : Kind) → List Char → Except JsonTrouble (kind.Value × List Char)
  | .text, input => readGivenText input
  | .optionalText, input =>
    if (skipBlanks input).head? = some 'n' then
      (readWord "null".toList (skipBlanks input)).map fun rest => (none, rest)
    else
      (readGivenText input).map fun (text, rest) => (some text, rest)

theorem length_readGivenText_lt {input rest : List Char} {text : String}
    (h : readGivenText input = .ok (text, rest)) : rest.length < input.length := by
  have hle := length_skipBlanks_le input
  unfold readGivenText at h
  split at h
  · cases h
  · rename_i c tail hblank
    split at h
    · have := length_readText_lt h
      rw [hblank, List.length_cons] at hle
      omega
    · cases h

theorem length_readGiven_le {kind : Kind} {input rest : List Char} {value : kind.Value}
    (h : readGiven kind input = .ok (value, rest)) : rest.length ≤ input.length := by
  cases kind with
  | text => exact Nat.le_of_lt (length_readGivenText_lt h)
  | optionalText =>
    rw [readGiven] at h
    split at h
    · obtain ⟨after, hword, h⟩ := map_eq_ok_iff.mp h
      cases h
      exact Nat.le_trans (length_readWord_le hword) (length_skipBlanks_le input)
    · obtain ⟨⟨given, after⟩, htext, h⟩ := map_eq_ok_iff.mp h
      cases h
      exact Nat.le_of_lt (length_readGivenText_lt htext)

/-- Reads the quote that begins a key, after a comma unless the key is the first. -/
def readKeyStart (isFirst : Bool) (c : Char) (rest : List Char) :
    Except JsonTrouble (List Char) :=
  if isFirst then
    if c = '"' then .ok rest else .error .malformed
  else if c = ',' then
    match skipBlanks rest with
    | [] => .error .incomplete
    | d :: rest => if d = '"' then .ok rest else .error .malformed
  else
    .error .malformed

theorem length_readKeyStart_le {isFirst : Bool} {c : Char} {tail rest : List Char}
    (h : readKeyStart isFirst c tail = .ok rest) : rest.length ≤ tail.length := by
  have hle := length_skipBlanks_le tail
  unfold readKeyStart at h
  split at h
  · split at h
    · cases h
      exact Nat.le_refl _
    · cases h
  · split at h
    · split at h
      · cases h
      · rename_i d after hblank
        split at h
        · cases h
          rw [hblank, List.length_cons] at hle
          omega
        · cases h
    · cases h

/-- Reads up to the value of an item of a list, past a comma unless the item is the first. -/
def readItemStart (isFirst : Bool) (c : Char) (rest : List Char) :
    Except JsonTrouble (List Char) :=
  if isFirst then
    .ok (c :: rest)
  else if c = ',' then
    match skipBlanks rest with
    | [] => .error .incomplete
    | d :: rest => if d = ']' then .error .malformed else .ok (d :: rest)
  else
    .error .malformed

def readListEnd (input : List Char) : Except JsonTrouble (List Char) :=
  match skipBlanks input with
  | [] => .error .incomplete
  | c :: rest => if c = ']' then .ok rest else .error .malformed

section Records

variable {record : Record}

/-- Reads the rest of an entry of an object, after the key. A field may be given once only. -/
def readEntry (draft : Draft record) (key : String) (input : List Char) :
    Except JsonTrouble (Draft record × List Char) :=
  match record.field? key with
  | some field =>
    if (draft field).isSome then
      .error .misfit
    else do
      let input ← readColon input
      let (value, input) ← readGiven (record.kind field) input
      return (draft.give field value, input)
  | none => do
    let input ← readColon input
    let input ← skipValue input
    return (draft, input)

theorem length_readEntry_le {draft after : Draft record} {key : String} {input rest : List Char}
    (h : readEntry draft key input = .ok (after, rest)) : rest.length ≤ input.length := by
  unfold readEntry at h
  split at h
  · split at h
    · cases h
    · obtain ⟨afterColon, hcolon, h⟩ := bind_eq_ok_iff.mp h
      obtain ⟨⟨value, afterGiven⟩, hgiven, h⟩ := bind_eq_ok_iff.mp h
      cases h
      have := length_readColon_lt hcolon
      have := length_readGiven_le hgiven
      omega
  · obtain ⟨afterColon, hcolon, h⟩ := bind_eq_ok_iff.mp h
    obtain ⟨afterValue, hvalue, h⟩ := bind_eq_ok_iff.mp h
    cases h
    have := length_readColon_lt hcolon
    have := length_skipValue_le hvalue
    omega

/-- Reads the entries of an object up to its close. -/
def readEntries (isFirst : Bool) (draft : Draft record) (input : List Char) :
    Except JsonTrouble (Draft record × List Char) :=
  match hblank : skipBlanks input with
  | [] => .error .incomplete
  | c :: rest =>
    have : (c :: rest).length ≤ input.length := hblank ▸ length_skipBlanks_le input
    if c = '\x7d' then
      .ok (draft, rest)
    else
      match hstart : readKeyStart isFirst c rest with
      | .error trouble => .error trouble
      | .ok afterStart =>
        match hkey : readText afterStart with
        | .error trouble => .error trouble
        | .ok (key, afterKey) =>
          match hentry : readEntry draft key afterKey with
          | .error trouble => .error trouble
          | .ok (draft, after) =>
            have := length_readKeyStart_le hstart
            have := length_readText_lt hkey
            have := length_readEntry_le hentry
            readEntries false draft after
termination_by input.length
decreasing_by
  simp only [List.length_cons] at *
  omega

/-- Reads the items of a list for fields in order, as long as there are items. -/
def readItems (isFirst : Bool) (draft : Draft record) :
    List record.Field → List Char → Except JsonTrouble (Draft record × List Char)
  | [], input => .ok (draft, input)
  | field :: fields, input =>
    match skipBlanks input with
    | [] => .error .incomplete
    | c :: rest =>
      if c = ']' then
        .ok (draft, c :: rest)
      else do
        let input ← readItemStart isFirst c rest
        let (value, input) ← readGiven (record.kind field) input
        readItems false (draft.give field value) fields input

/-- Reads the rest of an object or a list after the character that it starts with. -/
def readDraft (c : Char) (rest : List Char) : Except JsonTrouble (Draft record × List Char) :=
  if c = '\x7b' then
    readEntries true .empty rest
  else if c = '[' then do
    let (draft, rest) ← readItems true .empty record.fields rest
    return (draft, ← readListEnd rest)
  else
    .error (misfitAt c rest)

/-- Takes the value of a field from a member. -/
def take : (kind : Kind) → Held → Except JsonTrouble kind.Value
  | .text, .text text => .ok text
  | .optionalText, .text text => .ok (some text)
  | .optionalText, .null => .ok none
  | _, _ => .error .misfit

/-- Decodes one more member. A field may be given once only, and other members are passed over. -/
def decodeMember (draft : Draft record) (member : Member) : Except JsonTrouble (Draft record) :=
  match record.field? member.key with
  | some field =>
    if (draft field).isSome then .error .misfit
    else (take (record.kind field) member.held).map (draft.give field)
  | none => .ok draft

def writtenValue : (kind : Kind) → kind.Value → String
  | .text, text => written text
  | .optionalText, some text => written text
  | .optionalText, none => "null"

def writtenEntry (values : record.Values) (field : record.Field) : String :=
  written (record.key field) ++ ":" ++ writtenValue (record.kind field) (values field)

end Records

/-- The library that runs. It writes all fields in their order and without blanks. -/
def standard : Library where
  decode _ usual members := (members.foldlM decodeMember .empty).map (·.finish usual)
  encode record values :=
    record.fields.map fun field => ⟨record.key field, (record.kind field).held (values field)⟩
  read _ usual text :=
    match skipBlanks text.toList with
    | [] => .error .incomplete
    | c :: rest => do
      let (draft, rest) ← readDraft c rest
      match skipBlanks rest with
      | [] => return draft.finish usual
      | _ :: _ => throw .malformed
  write record values := "\x7b" ++ ",".intercalate (record.fields.map (writtenEntry values)) ++ "\x7d"

end Banter.Json
