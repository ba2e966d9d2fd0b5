import Banter.Proofs.Reading.Stops

/-!
# The pieces of a text

A text falls into pieces: longest runs of word characters, web addresses, marks, and characters that only
separate. Reading it gives the symbols of its pieces in order, then the stop, and nothing ever after.
-/

namespace Banter

inductive Piece where
  | word (run : List Char)
  | address (scheme tail : List Char)
  | mark (kind : Mark)
  | gap (c : Char)

namespace Piece

def chars : Piece → List Char
  | word run => run
  | address scheme tail => scheme ++ ':' :: tail
  | mark kind => [kind.char]
  | gap c => [c]

def symbol? : Piece → Option Symbol
  | word run => some (.word (Text.upper (String.ofList run)))
  | address scheme tail => some (.address (String.ofList (scheme ++ ':' :: tail)))
  | mark kind => some (.mark kind)
  | gap _ => none

def IsScheme (run : List Char) : Prop :=
  String.ofList run = "http" ∨ String.ofList run = "https"

/-- What a piece has to be where the characters `after` come next. A run of word characters and the tail of an
address go on for as long as they can, and a run is a word unless it begins an address. -/
def FitsBefore (after : List Char) : Piece → Prop
  | word run => run ≠ [] ∧ (∀ c ∈ run, Symbol.isWordChar c = true) ∧
      (∀ c ∈ after.head?, Symbol.isWordChar c = false) ∧ ¬(IsScheme run ∧ after.head? = some ':')
  | address scheme tail => IsScheme scheme ∧ (∀ c ∈ tail, Text.isBlank c = false) ∧
      ∀ c ∈ after.head?, Text.isBlank c = true
  | mark _ => True
  | gap c => Symbol.isWordChar c = false ∧ Mark.ofChar? c = none

end Piece

/-- Characters fall into pieces, each of which fits before the others that follow it. -/
inductive FallsInto : List Char → List Piece → Prop
  | nil : FallsInto [] []
  | cons {piece : Piece} {after : List Char} {pieces : List Piece} (fits : piece.FitsBefore after)
      (rest : FallsInto after pieces) : FallsInto (piece.chars ++ after) (piece :: pieces)

theorem FallsInto.chars_eq {chars : List Char} {pieces : List Piece} (h : FallsInto chars pieces) :
    pieces.flatMap Piece.chars = chars := by
  induction h with
  | nil => rfl
  | cons fits rest ih => rw [List.flatMap_cons, ih]

theorem isScheme_iff {run : List Char} : Piece.IsScheme run ↔ Scanning.isScheme run = true := by
  simp [Piece.IsScheme, Scanning.isScheme, ← String.toList_inj]

namespace Scanning

theorem isWord_of_isScheme {run : List Char} (h : Piece.IsScheme run) :
    run ≠ [] ∧ ∀ c ∈ run, Symbol.isWordChar c = true := by
  rw [isScheme_iff, isScheme, Bool.or_eq_true, beq_iff_eq, beq_iff_eq] at h
  rw [← List.all_eq_true]
  rcases h with rfl | rfl <;> decide

/-- A scheme and a colon are read as an address, which goes on to the next blank character. -/
theorem scan_scheme {scheme : List Char} (h : Piece.IsScheme scheme) (rest : List Char) :
    scan (scheme ++ ':' :: rest) =
      (.address (String.ofList (scheme ++ ':' :: rest.takeWhile (!Text.isBlank ·))),
        ongoing (rest.dropWhile (!Text.isBlank ·))) := by
  obtain ⟨hsome, hrun⟩ := isWord_of_isScheme h
  have hcolon : ∀ c ∈ (':' :: rest).head?, Symbol.isWordChar c = false := by
    intro c hc
    obtain rfl := Option.some.inj hc
    decide
  rw [scan_run hsome hrun hcolon, afterRun, if_pos (isScheme_iff.mp h)]

/-- Reading takes a piece that fits, and gives its symbol or goes on. -/
theorem scan_of_fits {piece : Piece} {after : List Char} (h : piece.FitsBefore after) :
    scan (piece.chars ++ after) =
      match piece.symbol? with
      | some symbol => (symbol, ongoing after)
      | none => scan after := by
  cases piece with
  | word run =>
    obtain ⟨hsome, hrun, hafter, hplain⟩ := h
    rw [isScheme_iff] at hplain
    rw [Piece.chars, scan_run hsome hrun hafter, afterRun_word hplain, Piece.symbol?, Text.upper,
      String.toList_ofList]
  | address scheme tail =>
    obtain ⟨hscheme, htail, hafter⟩ := h
    have hinside : ∀ c ∈ tail, (!Text.isBlank c) = true := by simpa using htail
    have houtside : ∀ c ∈ after.head?, (!Text.isBlank c) = false := by simpa using hafter
    rw [Piece.chars, List.append_assoc, List.cons_append, scan_scheme hscheme,
      takeWhile_append_of_head hinside houtside, dropWhile_append_of_head hinside houtside]
    rfl
  | mark kind => simp [Piece.chars, Piece.symbol?, scan, Mark.isWordChar_char]
  | gap c => simp [Piece.chars, Piece.symbol?, scan, h.1, h.2]

theorem symbols_of_fits {piece : Piece} {after : List Char} (h : piece.FitsBefore after) :
    (ongoing (piece.chars ++ after)).symbols = piece.symbol?.toList ++ (ongoing after).symbols := by
  rw [symbols_ongoing, scan_of_fits h]
  cases piece.symbol? with
  | some symbol => rfl
  | none => rw [Option.toList_none, List.nil_append, symbols_ongoing]

theorem symbols_of_fallsInto {chars : List Char} {pieces : List Piece} (h : FallsInto chars pieces) :
    (ongoing chars).symbols = pieces.filterMap Piece.symbol? ++ [.stop] := by
  induction h with
  | nil => exact symbols_ongoing_nil
  | @cons piece after pieces fits _ ih =>
    rw [symbols_of_fits fits, ih, List.filterMap_cons]
    cases piece.symbol? <;> rfl

private theorem head?_dropWhile {p : Char → Bool} {chars : List Char} :
    ∀ c ∈ (chars.dropWhile p).head?, p c = false := by
  intro c hc
  have hnot := List.head?_dropWhile_not p chars
  rw [Option.mem_def.mp hc] at hnot
  exact hnot

private theorem of_mem_takeWhile {p : Char → Bool} {chars : List Char} :
    ∀ c ∈ chars.takeWhile p, p c = true :=
  List.all_eq_true.mp List.all_takeWhile

/-- Characters begin with a piece that fits before the others. -/
theorem exists_piece (c : Char) (rest : List Char) : ∃ (piece : Piece) (after : List Char),
    piece.chars ++ after = c :: rest ∧ piece.FitsBefore after := by
  by_cases hword : Symbol.isWordChar c = true
  · have hsplit := List.takeWhile_append_dropWhile (p := Symbol.isWordChar) (l := c :: rest)
    have hrun : ∀ d ∈ (c :: rest).takeWhile Symbol.isWordChar, Symbol.isWordChar d = true := of_mem_takeWhile
    have hafter : ∀ d ∈ ((c :: rest).dropWhile Symbol.isWordChar).head?, Symbol.isWordChar d = false :=
      head?_dropWhile
    have hsome : (c :: rest).takeWhile Symbol.isWordChar ≠ [] := by simp [hword]
    generalize (c :: rest).takeWhile Symbol.isWordChar = run at *
    generalize (c :: rest).dropWhile Symbol.isWordChar = after at *
    by_cases haddress : Piece.IsScheme run ∧ after.head? = some ':'
    · obtain ⟨hscheme, hcolon⟩ := haddress
      obtain ⟨more, rfl⟩ := List.head?_eq_some_iff.mp hcolon
      refine ⟨.address run (more.takeWhile (!Text.isBlank ·)), more.dropWhile (!Text.isBlank ·), ?_, hscheme,
        ?_, ?_⟩
      · rw [Piece.chars, List.append_assoc, List.cons_append, List.takeWhile_append_dropWhile, hsplit]
      · intro d hd
        simpa using of_mem_takeWhile d hd
      · intro d hd
        simpa using head?_dropWhile d hd
    · exact ⟨.word run, after, hsplit, hsome, hrun, hafter, haddress⟩
  · cases hmark : Mark.ofChar? c with
    | some kind =>
      refine ⟨.mark kind, rest, ?_, trivial⟩
      rw [Mark.ofChar?_eq_some_iff.mp hmark]
      rfl
    | none => exact ⟨.gap c, rest, rfl, by simpa using hword, hmark⟩

theorem length_chars_pos {piece : Piece} {after : List Char} (h : piece.FitsBefore after) :
    0 < piece.chars.length := by
  cases piece with
  | word run => exact List.length_pos_iff.mpr h.1
  | address scheme tail =>
    rw [Piece.chars, List.length_append, List.length_cons]
    omega
  | mark kind => exact Nat.one_pos
  | gap c => exact Nat.one_pos

theorem exists_fallsInto (chars : List Char) : ∃ pieces, FallsInto chars pieces := by
  induction hn : chars.length using Nat.strongRecOn generalizing chars with
  | ind n ih =>
    cases chars with
    | nil => exact ⟨[], .nil⟩
    | cons c rest =>
      obtain ⟨piece, after, hsplit, hfits⟩ := exists_piece c rest
      have hlength := congrArg List.length hsplit
      have hpos := length_chars_pos hfits
      rw [List.length_append] at hlength
      obtain ⟨pieces, hpieces⟩ := ih after.length (by omega) after rfl
      rw [← hsplit]
      exact ⟨piece :: pieces, .cons hfits hpieces⟩

end Scanning

theorem symbolsOf_of_fallsInto {text : String} {pieces : List Piece} (h : FallsInto text.toList pieces) :
    symbolsOf text = if text = "" then [] else pieces.filterMap Piece.symbol? ++ [.stop] := by
  split
  next hnone => exact symbolsOf_eq_nil_iff.mpr hnone
  next hsome =>
    rw [symbolsOf_eq_symbols hsome, Scanning.symbols_of_fallsInto h]

/-- A text falls into pieces. However often a symbol is asked for, the symbols that are given are those of its
pieces in order, then the stop, unless the text has no characters, and then none. -/
theorem given?_of_pieces (text : String) :
    (∃ pieces, FallsInto text.toList pieces) ∧
      ∀ pieces, FallsInto text.toList pieces →
        pieces.flatMap Piece.chars = text.toList ∧
        .stop ∉ pieces.filterMap Piece.symbol? ∧
        symbolsOf text = (if text = "" then [] else pieces.filterMap Piece.symbol? ++ [.stop]) ∧
        ∀ n, (Reading.start text).given? n =
          (if text = "" then [] else pieces.filterMap Piece.symbol? ++ [.stop])[n]? := by
  refine ⟨Scanning.exists_fallsInto text.toList, ?_⟩
  intro pieces hpieces
  have hsymbols := symbolsOf_of_fallsInto hpieces
  refine ⟨hpieces.chars_eq, ?_, hsymbols, ?_⟩
  · intro hstop
    obtain ⟨piece, _, hpiece⟩ := List.mem_filterMap.mp hstop
    cases piece <;> simp [Piece.symbol?] at hpiece
  · intro n
    rw [(Reading.stands_start text).given?, ← symbolsOf_eq_scanning, hsymbols]

end Banter
