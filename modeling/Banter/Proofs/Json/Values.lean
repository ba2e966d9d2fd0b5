import Banter.Json.Value
import Banter.Proofs.Json.Numerals
import Banter.Proofs.Json.Spelling

/-!
# Values that are skipped

The grammar of values: words, numbers, texts, lists and objects, with blanks between their parts. Main
statement: a value is skipped to its end, however deeply it is nested.
-/

namespace Banter.Json

def AreBlank (chars : List Char) : Prop :=
  ∀ c ∈ chars, c ∈ [' ', '\n', '\t', '\r']

def Frame.enclose (inside : List Char) : Frame → List Char
  | list => '[' :: (inside ++ [']'])
  | object => '\x7b' :: (inside ++ ['\x7d'])

/-- The grammar of values that hold no other value. -/
inductive IsPlain : List Char → Prop
  | word {word : String} (known : word ∈ ["null", "true", "false"]) : IsPlain word.toList
  | number {numeral : List Char} (h : IsNumeral numeral) : IsPlain numeral
  | negative {numeral : List Char} (h : IsNumeral numeral) : IsPlain ('-' :: numeral)
  | text {body : List Char} (h : IsSkippable body) : IsPlain ('"' :: (body ++ ['"']))

/-- What values are made of: values, the items of frames, and all items of a frame. -/
inductive Part where
  | value
  | item (frame : Frame)
  | items (frame : Frame)

/-- The grammar of values. An item of an object has a key before its value, and commas stand between the
items of a frame. -/
inductive IsPart : Part → List Char → Prop
  | plain {chars : List Char} (h : IsPlain chars) : IsPart .value chars
  | empty (frame : Frame) {blanks : List Char} (blank : AreBlank blanks) :
      IsPart .value (frame.enclose blanks)
  | framed {frame : Frame} {chars : List Char} (items : IsPart (.items frame) chars) :
      IsPart .value (frame.enclose chars)
  | element {chars : List Char} (value : IsPart .value chars) : IsPart (.item .list) chars
  | entry {key before after chars : List Char} (skippable : IsSkippable key) (blankBefore : AreBlank before)
      (blankAfter : AreBlank after) (value : IsPart .value chars) :
      IsPart (.item .object) ('"' :: (key ++ '"' :: (before ++ ':' :: (after ++ chars))))
  | last {frame : Frame} {before after chars : List Char} (blankBefore : AreBlank before)
      (item : IsPart (.item frame) chars) (blankAfter : AreBlank after) :
      IsPart (.items frame) (before ++ (chars ++ after))
  | more {frame : Frame} {before after chars rest : List Char} (blankBefore : AreBlank before)
      (item : IsPart (.item frame) chars) (blankAfter : AreBlank after) (items : IsPart (.items frame) rest) :
      IsPart (.items frame) (before ++ (chars ++ (after ++ ',' :: rest)))

abbrev IsValue (chars : List Char) : Prop :=
  IsPart .value chars

section Blanks

variable {blanks : List Char}

theorem isBlank_iff {c : Char} : isBlank c = true ↔ c ∈ [' ', '\n', '\t', '\r'] := by
  simp [isBlank, or_assoc]

theorem skipBlanks_append (h : AreBlank blanks) (rest : List Char) :
    skipBlanks (blanks ++ rest) = skipBlanks rest :=
  List.dropWhile_append_of_pos fun c hc => isBlank_iff.mpr (h c hc)

theorem skipBlanks_cons {c : Char} (h : isBlank c = false) (rest : List Char) :
    skipBlanks (c :: rest) = c :: rest :=
  List.dropWhile_cons_of_neg (by simp [h])

theorem skipBlanks_append_cons {c : Char} (h : AreBlank blanks) (hc : isBlank c = false) (rest : List Char) :
    skipBlanks (blanks ++ c :: rest) = c :: rest := by
  rw [skipBlanks_append h, skipBlanks_cons hc]

theorem readColon_append (h : AreBlank blanks) (rest : List Char) :
    readColon (blanks ++ ':' :: rest) = .ok rest := by
  rw [readColon, skipBlanks_append_cons h (by decide)]
  rfl

/-- The characters that stand between values and around them. -/
def separators : List Char :=
  [' ', '\n', '\t', '\r', ',', '[', ']', '\x7b', '\x7d']

theorem mem_separators_of_isBlank {c : Char} (h : isBlank c = true) : c ∈ separators :=
  List.mem_append_left [',', '[', ']', '\x7b', '\x7d'] (isBlank_iff.mp h)

theorem not_number_of_mem_separators :
    ∀ c ∈ separators, isDigit c = false ∧ c ≠ '.' ∧ c ≠ 'e' ∧ c ≠ 'E' := by
  simp only [separators, List.forall_mem_cons, List.not_mem_nil, false_implies, implies_true, and_true]
  decide

/-- No number goes on over blanks and another separator. -/
theorem endsNumber_append {c : Char} (h : AreBlank blanks) (hc : c ∈ separators) (rest : List Char) :
    EndsNumber (blanks ++ c :: rest) := by
  intro d hd
  apply not_number_of_mem_separators
  cases blanks with
  | nil =>
    obtain rfl : c = d := by simpa using hd
    exact hc
  | cons b blanks =>
    obtain rfl : b = d := by simpa using hd
    exact mem_separators_of_isBlank (isBlank_iff.mpr (h b List.mem_cons_self))

end Blanks

/-- How skipping goes on from the first character that is not blank. -/
theorem skip_of_cons {input rest : List Char} {c : Char} (h : skipBlanks input = c :: rest)
    (frames : List Frame) (expected : Expected) :
    skip frames expected input =
      match expected, frames with
      | .value, frames =>
        if c = '[' then skip (.list :: frames) .firstItem rest
        else if c = '\x7b' then skip (.object :: frames) .firstItem rest
        else skipPlain c rest >>= skip frames .nextItem
      | .key, frames => skipKey c rest >>= skip frames .value
      | .firstItem, frame :: outer =>
        if c = frame.close then skip outer .nextItem rest
        else skip (frame :: outer) frame.item (c :: rest)
      | .nextItem, frame :: outer =>
        if c = frame.close then skip outer .nextItem rest
        else if c = ',' then skip (frame :: outer) frame.item rest
        else .error .malformed
      | .nextItem, [] => .ok input
      | .firstItem, [] => .error .malformed := by
  rw [skip]
  split
  next hnil => rw [h] at hnil; cases hnil
  next d tail hcons =>
    obtain ⟨rfl, rfl⟩ := List.cons.inj (h.symm.trans hcons)
    cases expected with
    | value =>
      dsimp only
      congr 2
      cases hplain : skipPlain c rest <;> split <;> simp_all [bind, Except.bind]
    | key =>
      dsimp only
      cases hkey : skipKey c rest <;> split <;> simp_all [bind, Except.bind]
    | firstItem => cases frames <;> rfl
    | nextItem => cases frames <;> rfl

section Plain

theorem wordAfter?_of_isDigit {c : Char} (h : isDigit c = true) : wordAfter? c = none := by
  unfold wordAfter?
  split
  case h_4 => rfl
  all_goals exact absurd h (by decide)

theorem readWord_append (letters rest : List Char) : readWord letters (letters ++ rest) = .ok rest := by
  induction letters with
  | nil => rfl
  | cons letter letters ih => rw [List.cons_append, readWord, if_pos rfl, ih]

/-- The first character of a value that holds no other value is no separator. -/
theorem IsPlain.exists_cons {chars : List Char} (h : IsPlain chars) :
    ∃ c tail, chars = c :: tail ∧ c ∉ separators := by
  cases h with
  | word known =>
    simp only [List.mem_cons, List.not_mem_nil, or_false] at known
    rcases known with rfl | rfl | rfl <;> exact ⟨_, _, rfl, by decide⟩
  | number h =>
    obtain ⟨c, more, rfl, hdigit⟩ := h.exists_cons
    refine ⟨c, more, rfl, ?_⟩
    intro hc
    rw [(not_number_of_mem_separators c hc).1] at hdigit
    cases hdigit
  | negative h => exact ⟨_, _, rfl, by decide⟩
  | text h => exact ⟨_, _, rfl, by decide⟩

theorem skipPlain_of_isPlain {c : Char} {tail rest : List Char} (h : IsPlain (c :: tail))
    (hrest : EndsNumber rest) : skipPlain c (tail ++ rest) = .ok rest := by
  generalize hchars : c :: tail = chars at h
  cases h with
  | word known =>
    simp only [List.mem_cons, List.not_mem_nil, or_false] at known
    rcases known with rfl | rfl | rfl <;>
      obtain ⟨rfl, rfl⟩ := List.cons.inj hchars <;> exact readWord_append _ rest
  | number h =>
    obtain ⟨numeral, hread⟩ := readNumeral_append h hrest .malformed
    obtain ⟨d, more, rfl, hdigit⟩ := h.exists_cons
    obtain ⟨rfl, rfl⟩ := List.cons.inj hchars
    have hquote : c ≠ '"' := by rintro rfl; exact absurd hdigit (by decide)
    have hminus : c ≠ '-' := by rintro rfl; exact absurd hdigit (by decide)
    rw [skipPlain, if_neg hquote, wordAfter?_of_isDigit hdigit]
    dsimp only
    rw [if_neg hminus, if_pos hdigit, ← List.cons_append, hread]
    rfl
  | negative h =>
    obtain ⟨numeral, hread⟩ := readNumeral_append h hrest .malformed
    obtain ⟨rfl, rfl⟩ := List.cons.inj hchars
    rw [skipPlain, if_neg (by decide)]
    dsimp only [wordAfter?]
    rw [if_pos rfl, hread]
    rfl
  | text h =>
    obtain ⟨rfl, rfl⟩ := List.cons.inj hchars
    rw [skipPlain, if_pos rfl, List.append_assoc, List.singleton_append, skipText_of_isSkippable h]

end Plain

section Parts

theorem isBlank_close (frame : Frame) : isBlank frame.close = false := by
  cases frame <;> decide

theorem close_mem_separators (frame : Frame) : frame.close ∈ separators := by
  cases frame <;> decide

def Frame.opening : Frame → Char
  | list => '['
  | object => '\x7b'

theorem enclose_append (frame : Frame) (inside rest : List Char) :
    frame.enclose inside ++ rest = frame.opening :: (inside ++ frame.close :: rest) := by
  cases frame <;> simp [Frame.enclose, Frame.opening, Frame.close]

/-- A value or an item begins with a character that is no blank and closes no frame. -/
theorem IsPart.exists_cons {part : Part} {chars : List Char} (h : IsPart part chars)
    (hpart : ∀ frame, part ≠ .items frame) :
    ∃ c tail, chars = c :: tail ∧ isBlank c = false ∧ ∀ frame : Frame, c ≠ frame.close := by
  have hframe (frame : Frame) (inside : List Char) : ∃ c tail, frame.enclose inside = c :: tail ∧
      isBlank c = false ∧ ∀ other : Frame, c ≠ other.close := by
    cases frame <;> exact ⟨_, _, rfl, by decide, fun other => by cases other <;> decide⟩
  induction h with
  | plain h =>
    obtain ⟨c, tail, rfl, hother⟩ := h.exists_cons
    refine ⟨c, tail, rfl, by simpa using mt mem_separators_of_isBlank hother, ?_⟩
    rintro frame rfl
    exact hother (close_mem_separators frame)
  | empty frame _ => exact hframe frame _
  | @framed frame _ _ _ => exact hframe frame _
  | element _ ih => exact ih (by simp)
  | entry _ _ _ _ _ => exact ⟨_, _, rfl, by decide, fun frame => by cases frame <;> decide⟩
  | @last frame _ _ _ _ _ _ _ => exact absurd rfl (hpart frame)
  | @more frame _ _ _ _ _ _ _ _ _ _ => exact absurd rfl (hpart frame)

theorem IsPart.skipBlanks_append {part : Part} {blanks chars : List Char} (h : IsPart part chars)
    (hpart : ∀ frame, part ≠ .items frame) (blank : AreBlank blanks) (rest : List Char) :
    skipBlanks (blanks ++ (chars ++ rest)) = chars ++ rest := by
  obtain ⟨c, tail, rfl, hc, _⟩ := h.exists_cons hpart
  exact skipBlanks_append_cons blank hc (tail ++ rest)

/-- The items of a frame begin, behind blanks, with a character that closes no frame. -/
theorem IsPart.exists_skipBlanks {frame : Frame} {chars : List Char} (h : IsPart (.items frame) chars)
    (rest : List Char) : ∃ c tail, skipBlanks (chars ++ rest) = c :: tail ∧ isBlank c = false ∧
      c ≠ frame.close := by
  have hitem {before item : List Char} (hbefore : AreBlank before) (h : IsPart (.item frame) item)
      (after : List Char) : ∃ c tail, skipBlanks (before ++ (item ++ after)) = c :: tail ∧ isBlank c = false ∧
        c ≠ frame.close := by
    have hskipped := h.skipBlanks_append (by simp) hbefore after
    obtain ⟨c, tail, rfl, hc, hclose⟩ := h.exists_cons (by simp)
    exact ⟨c, tail ++ after, hskipped, hc, hclose frame⟩
  cases h with
  | last blankBefore item _ =>
    rw [List.append_assoc, List.append_assoc]
    exact hitem blankBefore item _
  | more blankBefore item _ _ =>
    rw [List.append_assoc, List.append_assoc]
    exact hitem blankBefore item _

theorem skip_opening {frame : Frame} {input rest : List Char} (h : skipBlanks input = frame.opening :: rest)
    (frames : List Frame) : skip frames .value input = skip (frame :: frames) .firstItem rest := by
  rw [skip_of_cons h]
  cases frame <;> rfl

theorem skip_close {frame : Frame} {expected : Expected} (hitem : expected = .firstItem ∨ expected = .nextItem)
    {blanks : List Char} (blank : AreBlank blanks) (outer : List Frame) (rest : List Char) :
    skip (frame :: outer) expected (blanks ++ frame.close :: rest) = skip outer .nextItem rest := by
  rw [skip_of_cons (skipBlanks_append_cons blank (isBlank_close frame) rest)]
  rcases hitem with rfl | rfl <;> exact if_pos rfl

theorem skip_comma {frame : Frame} {blanks : List Char} (blank : AreBlank blanks) (outer : List Frame)
    (rest : List Char) :
    skip (frame :: outer) .nextItem (blanks ++ ',' :: rest) = skip (frame :: outer) frame.item rest := by
  rw [skip_of_cons (skipBlanks_append_cons blank (by decide) rest)]
  cases frame <;> rfl

/-- What comes next where a part stands. -/
def Part.expected : Part → Expected
  | value => .value
  | item frame | items frame => frame.item

/-- A part of a value is skipped to its end: the items of a frame with its close. -/
def Part.Skips : Part → List Char → Prop
  | items frame, chars => ∀ outer input rest, skipBlanks input = skipBlanks (chars ++ frame.close :: rest) →
      skip (frame :: outer) frame.item input = skip outer .nextItem rest
  | part, chars => ∀ frames input rest, EndsNumber rest → skipBlanks input = chars ++ rest →
      skip frames part.expected input = skip frames .nextItem rest

/-- Every part of a value is skipped. -/
theorem IsPart.skips {part : Part} {chars : List Char} (h : IsPart part chars) : part.Skips chars := by
  -- The blanks at the front may be gone already, so that inputs are compared by what stands behind them.
  induction h with
  | plain h =>
    intro frames input rest hrest hinput
    obtain ⟨c, tail, rfl, hother⟩ := h.exists_cons
    have hlist : c ≠ '[' := by rintro rfl; exact hother (by decide)
    have hobject : c ≠ '\x7b' := by rintro rfl; exact hother (by decide)
    rw [Part.expected, skip_of_cons (hinput.trans List.cons_append)]
    dsimp only
    rw [if_neg hlist, if_neg hobject, skipPlain_of_isPlain h hrest]
    rfl
  | empty frame blank =>
    intro frames input rest _ hinput
    rw [enclose_append] at hinput
    rw [Part.expected, skip_opening hinput]
    exact skip_close (Or.inl rfl) blank frames rest
  | @framed frame chars items ih =>
    intro frames input rest _ hinput
    obtain ⟨c, tail, hskipped, hc, hclose⟩ := items.exists_skipBlanks (frame.close :: rest)
    rw [enclose_append] at hinput
    rw [Part.expected, skip_opening hinput, skip_of_cons hskipped]
    dsimp only
    rw [if_neg hclose]
    exact ih frames (c :: tail) rest ((skipBlanks_cons hc tail).trans hskipped.symm)
  | element value ih => exact ih
  | @entry key before after chars skippable blankBefore blankAfter value ih =>
    intro frames input rest hrest hinput
    have hkey : skipKey '"' (key ++ '"' :: (before ++ ':' :: (after ++ (chars ++ rest)))) =
        .ok (after ++ (chars ++ rest)) := by
      rw [skipKey, if_pos rfl, skipText_of_isSkippable skippable]
      exact readColon_append blankBefore _
    simp only [List.cons_append, List.append_assoc] at hinput
    rw [Part.expected, Frame.item, skip_of_cons hinput]
    dsimp only
    rw [hkey]
    exact ih frames _ rest hrest (value.skipBlanks_append (by simp) blankAfter rest)
  | @last frame before after chars blankBefore item blankAfter ih =>
    intro outer input rest hinput
    have hafter := endsNumber_append blankAfter (close_mem_separators frame) rest
    rw [List.append_assoc, List.append_assoc, item.skipBlanks_append (by simp) blankBefore] at hinput
    exact (ih _ input _ hafter hinput).trans (skip_close (Or.inr rfl) blankAfter outer rest)
  | @more frame before after chars others blankBefore item blankAfter items ih ihItems =>
    intro outer input rest hinput
    have hafter := endsNumber_append blankAfter (show ',' ∈ separators by decide)
      (others ++ frame.close :: rest)
    rw [List.append_assoc, List.append_assoc, item.skipBlanks_append (by simp) blankBefore,
      List.append_assoc, List.cons_append] at hinput
    calc
      skip (frame :: outer) frame.item input =
          skip (frame :: outer) .nextItem (after ++ ',' :: (others ++ frame.close :: rest)) :=
        ih _ input _ hafter hinput
      _ = skip (frame :: outer) frame.item (others ++ frame.close :: rest) := skip_comma blankAfter outer _
      _ = skip outer .nextItem rest := ihItems outer _ rest rfl

/-- A value is skipped to its end, behind blanks. -/
theorem skipValue_of_isValue {blanks chars rest : List Char} (h : IsValue chars) (blank : AreBlank blanks)
    (hrest : EndsNumber rest) : skipValue (blanks ++ (chars ++ rest)) = .ok rest := by
  have hskips : skip [] .value (blanks ++ (chars ++ rest)) = skip [] .nextItem rest :=
    h.skips [] _ rest hrest (h.skipBlanks_append (by simp) blank rest)
  rw [skipValue, hskips, skip]
  split <;> rfl

end Parts

end Banter.Json
