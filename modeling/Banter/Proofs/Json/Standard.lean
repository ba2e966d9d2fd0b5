import Banter.Json.Standard
import Banter.Proofs.Json.Objects

/-!
# A library that is as documented

Main statement: the library that runs obeys the laws. An object is read entry by entry, and each entry leaves the
draft that decoding its member leaves.
-/

namespace Banter.Json

/-- Whatever a member holds is a value of JSON. -/
theorem SpellsHeld.isValue {held : Held} {value : List Char} (h : SpellsHeld held value) : IsValue value := by
  cases h with
  | null => exact .plain (.word (by decide))
  | text spells => exact .plain (.text spells.isSkippable)
  | other isValue => exact isValue

section Values

variable (blanks : Blanks) (rest : List Char)

theorem readGivenText_spelled {spelling : List Char} {text : String} (h : Spells spelling text.toList) :
    readGivenText (blanks.chars ++ ('"' :: (spelling ++ ['"']) ++ rest)) = .ok (text, rest) := by
  rw [readGivenText, List.cons_append, skipBlanks_append_cons blanks.blank (by decide)]
  dsimp only
  rw [if_pos rfl, List.append_assoc, List.singleton_append, readText_of_spells h, String.ofList_toList]

/-- A value is read as it is taken from a member. -/
theorem readGiven_of_take {kind : Kind} {held : Held} {value : kind.Value} (htake : take kind held = .ok value)
    {chars : List Char} (h : SpellsHeld held chars) :
    readGiven kind (blanks.chars ++ (chars ++ rest)) = .ok (value, rest) := by
  cases h with
  | null =>
    cases kind with
    | text => cases htake
    | optionalText =>
      obtain rfl := Except.ok.inj htake
      have hskip : skipBlanks (blanks.chars ++ ("null".toList ++ rest)) = "null".toList ++ rest :=
        skipBlanks_append_cons blanks.blank (by decide) _
      rw [readGiven, hskip, if_pos (show ("null".toList ++ rest).head? = some 'n' from rfl), readWord_append]
      rfl
  | @text spelling text spells =>
    have hread := readGivenText_spelled blanks rest spells
    cases kind with
    | text =>
      obtain rfl := Except.ok.inj htake
      exact hread
    | optionalText =>
      obtain rfl := Except.ok.inj htake
      have hhead : (skipBlanks (blanks.chars ++ ('"' :: (spelling ++ ['"']) ++ rest))).head? = some '"' := by
        rw [List.cons_append, skipBlanks_append_cons blanks.blank (by decide)]
        rfl
      rw [readGiven, hhead, if_neg (by decide), hread]
      rfl
  | other _ => cases kind <;> cases htake

end Values

section Entries

variable {record : Record} {draft after : Draft record} {member : Member} {chars : List Char}

/-- The rest of an entry is read as its member is decoded. -/
theorem readEntry_of_decodeMember (hdecode : decodeMember draft member = .ok after)
    (h : SpellsHeld member.held chars) (behindKey beforeValue : Blanks) {rest : List Char}
    (hrest : EndsNumber rest) :
    readEntry draft member.key (behindKey.chars ++ ':' :: (beforeValue.chars ++ (chars ++ rest))) =
      .ok (after, rest) := by
  rw [decodeMember] at hdecode
  rw [readEntry]
  cases hfield : record.field? member.key with
  | some field =>
    rw [hfield] at hdecode
    dsimp only at hdecode ⊢
    split at hdecode
    next => cases hdecode
    next hnew =>
      obtain ⟨value, htake, rfl⟩ := map_eq_ok_iff.mp hdecode
      simp only [hnew, Bool.false_eq_true, if_false, readColon_append behindKey.blank, bind, Except.bind,
        readGiven_of_take beforeValue rest htake h]
      rfl
  | none =>
    rw [hfield] at hdecode
    obtain rfl := Except.ok.inj hdecode
    simp only [readColon_append behindKey.blank, bind, Except.bind,
      skipValue_of_isValue h.isValue beforeValue.blank hrest]
    rfl

/-- How reading entries goes on from the first character that is not blank. -/
theorem readEntries_of_cons {input rest : List Char} {c : Char} (h : skipBlanks input = c :: rest)
    (isFirst : Bool) (draft : Draft record) :
    readEntries isFirst draft input =
      if c = '\x7d' then .ok (draft, rest)
      else readKeyStart isFirst c rest >>= readText >>= (fun read => readEntry draft read.1 read.2) >>=
        fun read => readEntries false read.1 read.2 := by
  rw [readEntries]
  split
  next hnil => rw [h] at hnil; cases hnil
  next d tail hcons =>
    obtain ⟨rfl, rfl⟩ := List.cons.inj (h.symm.trans hcons)
    dsimp only
    congr 1
    split
    next hstart => rw [hstart]; rfl
    next hstart =>
      rw [hstart]
      split
      next hkey => simp only [bind, Except.bind, hkey]
      next hkey =>
        split
        next hentry => simp only [bind, Except.bind, hkey, hentry]
        next hentry => simp only [bind, Except.bind, hkey, hentry]

theorem readEntries_close {blanks : List Char} (blank : AreBlank blanks) (isFirst : Bool)
    (draft : Draft record) (rest : List Char) :
    readEntries isFirst draft (blanks ++ '\x7d' :: rest) = .ok (draft, rest) := by
  rw [readEntries_of_cons (skipBlanks_append_cons blank (by decide) rest), if_pos rfl]

theorem readKeyStart_comma (before : Blanks) (rest : List Char) :
    readKeyStart false ',' (before.chars ++ '"' :: rest) = .ok rest := by
  rw [readKeyStart, if_neg (by decide), if_pos rfl, skipBlanks_append_cons before.blank (by decide)]
  rfl

theorem endsNumber_further (behind : Blanks) (entries : List (List Char)) (rest : List Char) :
    EndsNumber (behind.chars ++ (entries.flatMap (',' :: ·) ++ '\x7d' :: rest)) := by
  cases entries with
  | nil => exact endsNumber_append behind.blank (by decide) rest
  | cons entry entries => exact endsNumber_append behind.blank (by decide) _

variable (record) in
/-- An entry is read as its member is decoded, wherever its key may start. -/
theorem SpellsMember.readEntries (h : SpellsMember member chars) :
    ∃ (before behind : Blanks) (tail : List Char), chars = before.chars ++ '"' :: tail ∧
      ∀ {isFirst : Bool} {draft after : Draft record} {input start more : List Char} {c : Char},
        skipBlanks input = c :: start → c ≠ '\x7d' → readKeyStart isFirst c start = .ok (tail ++ more) →
        decodeMember draft member = .ok after → EndsNumber (behind.chars ++ more) →
        readEntries isFirst draft input = readEntries false after (behind.chars ++ more) := by
  obtain ⟨spellsKey, spellsValue, gaps⟩ := h
  rename_i key held spelling value
  refine ⟨gaps.beforeKey, gaps.behindValue, spelling ++ '"' :: (gaps.behindKey.chars ++
    ':' :: (gaps.beforeValue.chars ++ (value ++ gaps.behindValue.chars))), by simp [Gaps.entry], ?_⟩
  intro isFirst draft after input start more c hinput hclose hstart hdecode hmore
  have hkey := readText_of_spells spellsKey (gaps.behindKey.chars ++
    ':' :: (gaps.beforeValue.chars ++ (value ++ (gaps.behindValue.chars ++ more))))
  have hentry := readEntry_of_decodeMember hdecode spellsValue gaps.behindKey gaps.beforeValue hmore
  rw [String.ofList_toList] at hkey
  rw [readEntries_of_cons hinput, if_neg hclose, hstart]
  simp only [bind, Except.bind, List.append_assoc, List.cons_append, hkey, hentry]

/-- Entries that follow others are read with the commas before them, up to the close of the object. -/
theorem readEntries_further {members : List Member} {entries : List (List Char)}
    (h : List.Forall₂ SpellsMember members entries) (hdecode : members.foldlM decodeMember draft = .ok after)
    (behind : Blanks) (rest : List Char) :
    readEntries false draft (behind.chars ++ (entries.flatMap (',' :: ·) ++ '\x7d' :: rest)) =
      .ok (after, rest) := by
  -- The blanks behind a value are read with what follows it, so that they stand before the next comma.
  induction h generalizing draft behind with
  | nil =>
    obtain rfl := Except.ok.inj hdecode
    exact readEntries_close behind.blank false _ rest
  | @cons member chars members entries hfirst _ ih =>
    rw [List.foldlM_cons] at hdecode
    obtain ⟨next, hmember, hothers⟩ := bind_eq_ok_iff.mp hdecode
    obtain ⟨before, behindEntry, tail, rfl, hread⟩ := hfirst.readEntries record
    have hstart : readKeyStart false ','
        (before.chars ++ '"' :: (tail ++ (entries.flatMap (',' :: ·) ++ '\x7d' :: rest))) = _ :=
      readKeyStart_comma before _
    have hinput := skipBlanks_append_cons behind.blank (show isBlank ',' = false by decide)
      (before.chars ++ '"' :: (tail ++ (entries.flatMap (',' :: ·) ++ '\x7d' :: rest)))
    rw [List.flatMap_cons]
    simp only [List.cons_append, List.append_assoc]
    rw [hread hinput (by decide) hstart hmember (endsNumber_further _ _ _)]
    exact ih hothers behindEntry

theorem intercalate_comma (first : List Char) (entries : List (List Char)) :
    [','].intercalate (first :: entries) = first ++ entries.flatMap (',' :: ·) := by
  induction entries generalizing first with
  | nil => simp
  | cons entry entries ih =>
    rw [List.intercalate_cons_cons, ih, List.flatMap_cons]
    simp

/-- The entries of an object are read up to its close. -/
theorem readEntries_all {members : List Member} {entries : List (List Char)}
    (h : List.Forall₂ SpellsMember members entries) (hdecode : members.foldlM decodeMember draft = .ok after)
    (inside : Blanks) (rest : List Char) :
    readEntries true draft (inside.chars ++ ([','].intercalate entries ++ '\x7d' :: rest)) =
      .ok (after, rest) := by
  cases h with
  | nil =>
    obtain rfl := Except.ok.inj hdecode
    exact readEntries_close inside.blank true _ rest
  | cons hfirst hfurther =>
    rw [List.foldlM_cons] at hdecode
    obtain ⟨next, hmember, hothers⟩ := bind_eq_ok_iff.mp hdecode
    obtain ⟨before, behind, tail, rfl, hread⟩ := hfirst.readEntries record
    have hinput (more : List Char) :
        skipBlanks (inside.chars ++ (before.chars ++ '"' :: more)) = '"' :: more := by
      rw [skipBlanks_append inside.blank, skipBlanks_append_cons before.blank (by decide)]
    rw [intercalate_comma]
    simp only [List.append_assoc, List.cons_append]
    rw [hread (hinput _) (by decide) (if_pos rfl) hmember (endsNumber_further _ _ _)]
    exact readEntries_further hfurther hothers behind rest

end Entries

section Members

variable {record : Record} {draft after : Draft record}

theorem take_held (kind : Kind) (value : kind.Value) : take kind (kind.held value) = .ok value := by
  cases kind with
  | text => rfl
  | optionalText => cases value <;> rfl

theorem Draft.finish_give (usual : record.Values) (field : record.Field) (value : (record.kind field).Value) :
    (draft.give field value).finish usual = Function.update (draft.finish usual) field value := by
  funext other
  rcases eq_or_ne other field with rfl | hother
  · simp [finish, give]
  · simp [finish, give, hother]

theorem decodeMember_held {field : record.Field} (hnew : draft field = none) (value : (record.kind field).Value) :
    decodeMember draft ⟨record.key field, (record.kind field).held value⟩ = .ok (draft.give field value) := by
  rw [decodeMember, Record.field?_eq_some_iff.mpr rfl]
  simp only [hnew, Option.isSome_none, Bool.false_eq_true, if_false, take_held]
  rfl

theorem decodeMember_unknown {member : Member} (unknown : ∀ field, record.key field ≠ member.key) :
    decodeMember draft member = .ok draft := by
  have hnone : record.field? member.key = none := by
    rw [Option.eq_none_iff_forall_ne_some]
    exact fun field hfield => unknown field (Record.field?_eq_some_iff.mp hfield)
  rw [decodeMember, hnone]

/-- A member leaves the fields alone whose key it does not have. -/
theorem decodeMember_apply {member : Member} (h : decodeMember draft member = .ok after) {field : record.Field}
    (hkey : member.key ≠ record.key field) : after field = draft field := by
  rw [decodeMember] at h
  split at h
  next given hgiven =>
    split at h
    next => cases h
    next =>
      obtain ⟨value, _, rfl⟩ := map_eq_ok_iff.mp h
      have hother : field ≠ given := by
        rintro rfl
        exact hkey (Record.field?_eq_some_iff.mp hgiven).symm
      exact dif_neg hother
  next =>
    obtain rfl := Except.ok.inj h
    rfl

theorem foldlM_decodeMember_apply {members : List Member} (h : members.foldlM decodeMember draft = .ok after)
    {field : record.Field} (once : ∀ member ∈ members, member.key ≠ record.key field) :
    after field = draft field := by
  induction members generalizing draft with
  | nil =>
    obtain rfl := Except.ok.inj h
    rfl
  | cons member members ih =>
    obtain ⟨hkey, hkeys⟩ := List.forall_mem_cons.mp once
    rw [List.foldlM_cons] at h
    obtain ⟨next, hmember, hothers⟩ := bind_eq_ok_iff.mp h
    rw [ih hothers hkeys, decodeMember_apply hmember hkey]

theorem foldlM_decodeMember_concat {members : List Member} (h : members.foldlM decodeMember draft = .ok after)
    (member : Member) : (members ++ [member]).foldlM decodeMember draft = decodeMember after member := by
  rw [List.foldlM_append, h]
  exact bind_pure (decodeMember after member)

/-- The value of a field is spelled as it is written. -/
theorem spellsHeld_writtenValue (kind : Kind) (value : kind.Value) :
    SpellsHeld (kind.held value) (writtenValue kind value).toList := by
  have htext (text : String) : SpellsHeld (.text text) (written text).toList := by
    obtain ⟨spelling, hspells, hwritten⟩ := toList_written text
    rw [hwritten]
    exact .text hspells
  match kind, value with
  | .text, text => exact htext text
  | .optionalText, some text => exact htext text
  | .optionalText, none => exact .null

theorem spellsMember_writtenEntry (values : record.Values) (field : record.Field) :
    SpellsMember ⟨record.key field, (record.kind field).held (values field)⟩
      (writtenEntry values field).toList := by
  obtain ⟨spelling, hspells, hwritten⟩ := toList_written (record.key field)
  have hentry := SpellsMember.entry hspells (spellsHeld_writtenValue _ (values field)) .none
  simpa [Gaps.entry, Gaps.none, Blanks.none, writtenEntry, hwritten] using hentry

end Members

/-- The library that runs is as documented. -/
theorem standard_isDocumented : standard.IsDocumented where
  decode_nil record usual := rfl
  decode_field := by
    intro record usual values members decoded field once value
    obtain ⟨draft, hdraft, rfl⟩ := map_eq_ok_iff.mp decoded
    have hnew : draft field = none := foldlM_decodeMember_apply hdraft once
    apply map_eq_ok_iff.mpr
    refine ⟨draft.give field value, ?_, draft.finish_give usual field value⟩
    rw [foldlM_decodeMember_concat hdraft, decodeMember_held hnew]
  decode_unknown := by
    intro record usual values members decoded member unknown
    obtain ⟨draft, hdraft, rfl⟩ := map_eq_ok_iff.mp decoded
    apply map_eq_ok_iff.mpr
    refine ⟨draft, ?_, rfl⟩
    rw [foldlM_decodeMember_concat hdraft, decodeMember_unknown unknown]
  encode_eq record values := rfl
  read_of_spells := by
    intro record usual values members text spells decoded
    obtain ⟨entries, before, inside, after, hentries, htext⟩ := spells
    obtain ⟨draft, hdraft, rfl⟩ := map_eq_ok_iff.mp decoded
    have hread := readEntries_all hentries hdraft inside after.chars
    have hafter := skipBlanks_append after.blank []
    rw [List.append_nil] at hafter
    dsimp only [standard]
    rw [htext, skipBlanks_append_cons before.blank (by decide)]
    dsimp only
    rw [readDraft, if_pos rfl, hread]
    simp only [bind, Except.bind, hafter]
    rfl
  spells_write record values := by
    refine ⟨record.fields.map fun field => (writtenEntry values field).toList, .none, .none, .none, ?_, ?_⟩
    · dsimp only [standard]
      rw [List.forall₂_map_left_iff, List.forall₂_map_right_iff, List.forall₂_same]
      exact fun field _ => spellsMember_writtenEntry values field
    · simp [standard, Blanks.none, String.toList_intercalate, Function.comp_def]

end Banter.Json
