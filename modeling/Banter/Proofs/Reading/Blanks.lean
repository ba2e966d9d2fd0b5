import Banter.Proofs.Reading.Pieces

/-!
# Reading across a blank character

A blank character separates and is nothing else: no word or address goes on past it, and it is no mark. So what is
before it is read as if nothing came after, and what comes after as if nothing were before.
-/

namespace Banter

namespace Text

def blankPoints : List Nat :=
  [0x09, 0x0A, 0x0B, 0x0C, 0x0D, 0x20, 0x85, 0xA0, 0x1680, 0x2000, 0x2001, 0x2002, 0x2003, 0x2004, 0x2005, 0x2006,
    0x2007, 0x2008, 0x2009, 0x200A, 0x2028, 0x2029, 0x202F, 0x205F, 0x3000]

theorem mem_blankPoints {point : Nat} (h : isBlankPoint point = true) : point ∈ blankPoints := by
  simp only [isBlankPoint, Bool.or_eq_true, Bool.and_eq_true, decide_eq_true_eq, beq_iff_eq] at h
  simp only [blankPoints, List.mem_cons, List.not_mem_nil, or_false]
  omega

theorem forall_isBlank {p : Char → Prop} (h : ∀ point ∈ blankPoints, p (Char.ofNat point)) {c : Char}
    (hc : isBlank c = true) : p c := by
  rw [← Char.ofNat_toNat c]
  exact h c.toNat (mem_blankPoints hc)

/-- A blank character only separates. -/
theorem separates_of_isBlank {c : Char} (h : isBlank c = true) :
    Symbol.isWordChar c = false ∧ Mark.ofChar? c = none :=
  forall_isBlank (p := fun c => Symbol.isWordChar c = false ∧ Mark.ofChar? c = none) (by decide +kernel) h

end Text

variable {blank : Char} {pieces others : List Piece}

namespace Piece

theorem fitsBefore_gap_of_isBlank (h : Text.isBlank blank = true) (after : List Char) :
    (gap blank).FitsBefore after :=
  Text.separates_of_isBlank h

/-- A piece that fits before other characters fits before them when a blank character comes after these. -/
theorem FitsBefore.append_blank {piece : Piece} {after : List Char} (h : piece.FitsBefore after)
    (hblank : Text.isBlank blank = true) (rest : List Char) : piece.FitsBefore (after ++ blank :: rest) := by
  -- Only a piece at the end of the characters meets the blank character.
  cases after with
  | cons c after => cases piece <;> exact h
  | nil =>
    cases piece with
    | word run =>
      obtain ⟨hsome, hrun, _⟩ := h
      obtain ⟨hword, hmark⟩ := Text.separates_of_isBlank hblank
      refine ⟨hsome, hrun, by simpa using hword, ?_⟩
      rintro ⟨_, hcolon⟩
      obtain rfl : blank = ':' := Option.some.inj hcolon
      exact absurd hmark (by decide)
    | address scheme tail =>
      obtain ⟨hscheme, htail, _⟩ := h
      exact ⟨hscheme, htail, by simpa using hblank⟩
    | mark kind => trivial
    | gap c => exact h

end Piece

/-- Characters on both sides of a blank character fall into their own pieces. -/
theorem FallsInto.append_blank {before after : List Char} (h : FallsInto before pieces)
    (hblank : Text.isBlank blank = true) (hafter : FallsInto after others) :
    FallsInto (before ++ blank :: after) (pieces ++ .gap blank :: others) := by
  induction h with
  | nil => exact .cons (Piece.fitsBefore_gap_of_isBlank hblank after) hafter
  | cons fits _ ih =>
    rw [List.append_assoc]
    exact .cons (fits.append_blank hblank after) ih

namespace Scanning

/-- Reading forgets at a blank character what was before it, but for the symbols already given. -/
theorem symbols_append_blank (before after : List Char) (hblank : Text.isBlank blank = true) :
    (ongoing (before ++ blank :: after)).symbols =
      (ongoing before).symbols.dropLast ++ (ongoing after).symbols := by
  obtain ⟨pieces, hbefore⟩ := exists_fallsInto before
  obtain ⟨others, hafter⟩ := exists_fallsInto after
  rw [symbols_of_fallsInto (hbefore.append_blank hblank hafter), symbols_of_fallsInto hbefore,
    symbols_of_fallsInto hafter, List.dropLast_concat, List.filterMap_append,
    List.filterMap_cons_none (show Piece.symbol? (.gap blank) = none from rfl), List.append_assoc]

/-- What is left without the stop at the end ends with it again. -/
theorem dropLast_symbols_append_stop (rest : List Char) :
    (ongoing rest).symbols.dropLast ++ [.stop] = (ongoing rest).symbols := by
  obtain ⟨front, hfront, _⟩ := symbols_ongoing_eq rest
  rw [hfront, List.dropLast_concat]

end Scanning

/-- A text is read up to a blank character and on from it as two texts, of which only the second ends with the
stop. A blank character at the end changes nothing, but alone it is a text with the stop. -/
theorem symbolsOf_append_blank (before after : String) {blank : Char} (h : Text.isBlank blank = true) :
    symbolsOf (before ++ String.singleton blank ++ after) =
      if after = "" then
        if before = "" then [.stop] else symbolsOf before
      else (symbolsOf before).dropLast ++ symbolsOf after := by
  have hsome : before ++ String.singleton blank ++ after ≠ "" := by
    simp [← String.toList_eq_nil_iff]
  have hchars : (before ++ String.singleton blank ++ after).toList = before.toList ++ blank :: after.toList := by
    simp
  have hbefore : (symbolsOf before).dropLast = (Scanning.ongoing before.toList).symbols.dropLast := by
    by_cases hnone : before = ""
    · rw [symbolsOf_eq_nil_iff.mpr hnone, hnone, String.toList_empty, Scanning.symbols_ongoing_nil]
      rfl
    · rw [symbolsOf_eq_symbols hnone]
  rw [symbolsOf_eq_symbols hsome, hchars, Scanning.symbols_append_blank before.toList after.toList h]
  split
  next hafter =>
    rw [hafter, String.toList_empty, Scanning.symbols_ongoing_nil, Scanning.dropLast_symbols_append_stop]
    split
    next hnone => rw [hnone, String.toList_empty, Scanning.symbols_ongoing_nil]
    next hnone => rw [symbolsOf_eq_symbols hnone]
  next hafter => rw [hbefore, symbolsOf_eq_symbols hafter]

theorem symbolsOf_append_blank_address :
    Text.isBlank '\u2003' = true ∧ symbolsOf "see http:a,\u2003!" =
      [.word "SEE", .address "http:a,", .mark .exclamation, .stop] := by
  have hblank : Text.isBlank '\u2003' = true := by decide
  have hsplit := symbolsOf_append_blank "see http:a," "!" hblank
  refine ⟨hblank, ?_⟩
  rw [show "see http:a,\u2003!" = "see http:a," ++ String.singleton '\u2003' ++ "!" from rfl, hsplit]
  decide +kernel

end Banter
