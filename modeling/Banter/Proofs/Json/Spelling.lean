import Mathlib.Tactic.SplitIfs
import Banter.Json.Text

/-!
# How texts are spelled

Each character of a text can be spelled in several ways: as it is, by an escape, by a unit or by two. Main
statements: however a text is spelled, it is read as that text, and as it is written it is one of its
spellings. What is skipped may also hold units that make no character.
-/

namespace Banter.Json

def StandsAlone (c : Char) : Prop :=
  c ≠ '"' ∧ c ≠ '\\' ∧ 0x20 ≤ c.toNat

def escapeLetters : List Char :=
  ['"', '\\', '/', 'b', 'f', 'n', 'r', 't']

def hexDigits : List Char :=
  "0123456789abcdefABCDEF".toList

/-- Characters that spell one character of a text. -/
inductive Denotes : List Char → Char → Prop
  | itself {c : Char} (alone : StandsAlone c) : Denotes [c] c
  | escape {letter meant : Char} (escaped : escaped? letter = some meant) : Denotes ['\\', letter] meant
  | unit {a b c d : Char} {unit : Nat} (value : hexUnit? a b c d = some unit)
      (whole : isLeading unit = false ∧ isTrailing unit = false) :
      Denotes ['\\', 'u', a, b, c, d] (Char.ofNat unit)
  | units {a b c d e f g h : Char} {leading trailing : Nat} (first : hexUnit? a b c d = some leading)
      (second : hexUnit? e f g h = some trailing)
      (halves : isLeading leading = true ∧ isTrailing trailing = true) :
      Denotes ['\\', 'u', a, b, c, d, '\\', 'u', e, f, g, h] (joined leading trailing)

/-- Characters that spell a text, as they stand between quotes. -/
inductive Spells : List Char → List Char → Prop
  | nil : Spells [] []
  | cons {glyph spelling text : List Char} {c : Char} (first : Denotes glyph c)
      (rest : Spells spelling text) : Spells (glyph ++ spelling) (c :: text)

/-- What a text is made of where it is skipped. -/
inductive IsGlyph : List Char → Prop
  | itself {c : Char} (alone : StandsAlone c) : IsGlyph [c]
  | escape {letter : Char} (known : letter ∈ escapeLetters) : IsGlyph ['\\', letter]
  | unit {a b c d : Char} (digits : ∀ digit ∈ [a, b, c, d], digit ∈ hexDigits) :
      IsGlyph ['\\', 'u', a, b, c, d]

/-- A text that may be skipped, as it stands between quotes. -/
def IsSkippable (body : List Char) : Prop :=
  ∃ glyphs : List (List Char), (∀ glyph ∈ glyphs, IsGlyph glyph) ∧ body = glyphs.flatten

theorem StandsAlone.isControl {c : Char} (h : StandsAlone c) : isControl c = false :=
  decide_eq_false (Nat.not_lt.mpr h.2.2)

theorem exists_escaped {letter : Char} (h : letter ∈ escapeLetters) : ∃ meant, escaped? letter = some meant := by
  simp only [escapeLetters, List.mem_cons, List.not_mem_nil, or_false] at h
  rcases h with rfl | rfl | rfl | rfl | rfl | rfl | rfl | rfl <;> exact ⟨_, rfl⟩

theorem exists_hexDigit {digit : Char} (h : digit ∈ hexDigits) : ∃ value, hexDigit? digit = some value := by
  have hall : hexDigits.all (fun digit => (hexDigit? digit).isSome) = true := by decide
  exact Option.isSome_iff_exists.mp (List.all_eq_true.mp hall digit h)

theorem exists_hexUnit {a b c d : Char} (h : ∀ digit ∈ [a, b, c, d], digit ∈ hexDigits) :
    ∃ unit, hexUnit? a b c d = some unit := by
  obtain ⟨first, hfirst⟩ := exists_hexDigit (h a (by simp))
  obtain ⟨second, hsecond⟩ := exists_hexDigit (h b (by simp))
  obtain ⟨third, hthird⟩ := exists_hexDigit (h c (by simp))
  obtain ⟨fourth, hfourth⟩ := exists_hexDigit (h d (by simp))
  simp [hexUnit?, hfirst, hsecond, hthird, hfourth]

theorem readUnit_of_value {a b c d : Char} {unit : Nat} (h : hexUnit? a b c d = some unit) (rest : List Char) :
    readUnit (a :: b :: c :: d :: rest) = .ok (unit, rest) := by
  rw [readUnit, h]

theorem ne_u_of_escaped {letter meant : Char} (h : escaped? letter = some meant) : letter ≠ 'u' := by
  rintro rfl
  cases h

theorem readOnto_of_alone {c : Char} (h : StandsAlone c) (done rest : List Char) :
    readOnto done (c :: rest) = readOnto (c :: done) rest := by
  rw [readOnto, if_neg h.1, if_neg h.2.1, h.isControl]
  rfl

theorem readOnto_of_escape {input rest : List Char} {meant : Char} (h : readEscape input = .ok (meant, rest))
    (done : List Char) : readOnto done ('\\' :: input) = readOnto (meant :: done) rest := by
  rw [readOnto, if_neg (by decide), if_pos rfl]
  split
  next hread =>
    obtain ⟨rfl, rfl⟩ := Prod.mk.inj (Except.ok.inj (hread.symm.trans h))
    rfl
  next hread =>
    rw [h] at hread
    cases hread

theorem readOnto_of_denotes {glyph : List Char} {c : Char} (h : Denotes glyph c) (done rest : List Char) :
    readOnto done (glyph ++ rest) = readOnto (c :: done) rest := by
  cases h <;> simp only [List.cons_append, List.nil_append]
  case itself alone => exact readOnto_of_alone alone done rest
  case escape escaped =>
    apply readOnto_of_escape
    rw [readEscape, if_neg (ne_u_of_escaped escaped), escaped]
  case unit value whole =>
    apply readOnto_of_escape
    rw [readEscape, if_pos rfl, readUnits, readUnit_of_value value]
    simp only [whole, Bool.false_eq_true, if_false]
  case units first second halves =>
    apply readOnto_of_escape
    rw [readEscape, if_pos rfl, readUnits, readUnit_of_value first]
    simp only [halves, if_true, readTrailing, and_self, readUnit_of_value second]

theorem readOnto_of_spells {spelling text : List Char} (h : Spells spelling text) (done rest : List Char) :
    readOnto done (spelling ++ '"' :: rest) = .ok (String.ofList (done.reverse ++ text), rest) := by
  induction h generalizing done with
  | nil => rw [List.nil_append, readOnto, if_pos rfl, List.append_nil]
  | cons first _ ih => rw [List.append_assoc, readOnto_of_denotes first, ih, List.reverse_cons,
      List.append_assoc, List.singleton_append]

/-- However a text is spelled, it is read as that text. -/
theorem readText_of_spells {spelling text : List Char} (h : Spells spelling text) (rest : List Char) :
    readText (spelling ++ '"' :: rest) = .ok (String.ofList text, rest) :=
  readOnto_of_spells h [] rest

theorem skipText_of_escape {input rest : List Char} (h : skipEscape input = .ok rest) :
    skipText ('\\' :: input) = skipText rest := by
  rw [skipText, if_neg (by decide), if_pos rfl]
  split
  next hskip =>
    obtain rfl := Except.ok.inj (hskip.symm.trans h)
    rfl
  next hskip =>
    rw [h] at hskip
    cases hskip

theorem skipText_of_glyph {glyph : List Char} (h : IsGlyph glyph) (rest : List Char) :
    skipText (glyph ++ rest) = skipText rest := by
  cases h <;> simp only [List.cons_append, List.nil_append]
  case itself alone =>
    rw [skipText, if_neg alone.1, if_neg alone.2.1, alone.isControl]
    rfl
  case escape known =>
    obtain ⟨meant, hmeant⟩ := exists_escaped known
    apply skipText_of_escape
    rw [skipEscape, if_neg (ne_u_of_escaped hmeant), hmeant]
    rfl
  case unit digits =>
    obtain ⟨unit, hunit⟩ := exists_hexUnit digits
    apply skipText_of_escape
    rw [skipEscape, if_pos rfl, readUnit_of_value hunit]
    rfl

theorem skipText_of_isSkippable {body : List Char} (h : IsSkippable body) (rest : List Char) :
    skipText (body ++ '"' :: rest) = .ok rest := by
  obtain ⟨glyphs, hglyphs, rfl⟩ := h
  induction glyphs with
  | nil => rw [List.flatten_nil, List.nil_append, skipText, if_pos rfl]
  | cons glyph glyphs ih =>
    obtain ⟨hfirst, hrest⟩ := List.forall_mem_cons.mp hglyphs
    rw [List.flatten_cons, List.append_assoc, skipText_of_glyph hfirst, ih hrest]

/-- Where a digit is a value it is one of the digits of a unit. -/
theorem mem_hexDigits {digit : Char} {value : Nat} (h : hexDigit? digit = some value) : digit ∈ hexDigits := by
  have hall : ∀ point < 0x80, (hexDigit? (Char.ofNat point)).isSome = true → Char.ofNat point ∈ hexDigits := by
    decide
  have hascii : digit.toNat < 0x80 := by
    unfold hexDigit? at h
    simp only [Char.le_def, UInt32.le_iff_toNat_le] at h
    change digit.val.toNat < 0x80
    split_ifs at h with hdecimal hlower hupper
    · exact Nat.lt_of_le_of_lt hdecimal.2 (by decide)
    · exact Nat.lt_of_le_of_lt hlower.2 (by decide)
    · exact Nat.lt_of_le_of_lt hupper.2 (by decide)
  have hsome := hall digit.toNat hascii
  rw [Char.ofNat_toNat] at hsome
  exact hsome (by rw [h]; rfl)

theorem mem_hexDigits_of_hexUnit {a b c d : Char} {unit : Nat} (h : hexUnit? a b c d = some unit) :
    ∀ digit ∈ [a, b, c, d], digit ∈ hexDigits := by
  simp only [hexUnit?, bind, Option.bind_eq_some_iff, pure] at h
  obtain ⟨_, ha, _, hb, _, hc, _, hd, _⟩ := h
  simp [mem_hexDigits ha, mem_hexDigits hb, mem_hexDigits hc, mem_hexDigits hd]

theorem mem_escapeLetters {letter meant : Char} (h : escaped? letter = some meant) : letter ∈ escapeLetters := by
  unfold escaped? at h
  split at h
  case h_9 => cases h
  all_goals decide

theorem IsSkippable.append {front back : List Char} (hfront : IsSkippable front) (hback : IsSkippable back) :
    IsSkippable (front ++ back) := by
  obtain ⟨glyphs, hglyphs, rfl⟩ := hfront
  obtain ⟨others, hothers, rfl⟩ := hback
  exact ⟨glyphs ++ others, List.forall_mem_append.mpr ⟨hglyphs, hothers⟩, List.flatten_append.symm⟩

theorem IsGlyph.isSkippable {glyph : List Char} (h : IsGlyph glyph) : IsSkippable glyph :=
  ⟨[glyph], List.forall_mem_singleton.mpr h, by simp⟩

theorem Denotes.isSkippable {glyph : List Char} {c : Char} (h : Denotes glyph c) : IsSkippable glyph := by
  cases h with
  | itself alone => exact (IsGlyph.itself alone).isSkippable
  | escape escaped => exact (IsGlyph.escape (mem_escapeLetters escaped)).isSkippable
  | unit value _ => exact (IsGlyph.unit (mem_hexDigits_of_hexUnit value)).isSkippable
  | units first second _ =>
    exact (IsGlyph.unit (mem_hexDigits_of_hexUnit first)).isSkippable.append
      (IsGlyph.unit (mem_hexDigits_of_hexUnit second)).isSkippable

/-- However a text is spelled, it may be skipped. -/
theorem Spells.isSkippable {spelling text : List Char} (h : Spells spelling text) : IsSkippable spelling := by
  induction h with
  | nil => exact ⟨[], by simp, rfl⟩
  | cons first _ ih => exact first.isSkippable.append ih

theorem denotes_writtenChar (c : Char) : Denotes (writtenChar c) c := by
  have hunits : ∀ point < 0x20, hexUnit? '0' '0' (Nat.digitChar (point / 16)) (Nat.digitChar (point % 16)) =
      some point := by decide
  unfold writtenChar
  split_ifs with hquoted hbackspace hfeed hline hreturn htab hcontrol
  · rcases hquoted with rfl | rfl <;> exact .escape rfl
  · rw [hbackspace]; exact .escape rfl
  · rw [hfeed]; exact .escape rfl
  · rw [hline]; exact .escape rfl
  · rw [hreturn]; exact .escape rfl
  · rw [htab]; exact .escape rfl
  · have hsmall : c.toNat < 0x20 := by simpa [isControl] using hcontrol
    have hdenotes := Denotes.unit (hunits c.toNat hsmall)
      ⟨by simp [isLeading]; omega, by simp [isTrailing]; omega⟩
    rwa [Char.ofNat_toNat] at hdenotes
  · exact .itself ⟨fun h => hquoted (Or.inl h), fun h => hquoted (Or.inr h), by simpa [isControl] using hcontrol⟩

theorem spells_flatMap_writtenChar (text : List Char) : Spells (text.flatMap writtenChar) text := by
  induction text with
  | nil => exact .nil
  | cons c text ih => exact .cons (denotes_writtenChar c) ih

/-- A text is read as it is written. -/
theorem toList_written (text : String) : ∃ spelling, Spells spelling text.toList ∧
    (written text).toList = '"' :: (spelling ++ ['"']) :=
  ⟨_, spells_flatMap_writtenChar text.toList, by rw [written, String.toList_ofList]; rfl⟩

end Banter.Json
