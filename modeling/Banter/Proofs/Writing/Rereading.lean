import Banter.Proofs.Writing.Neighbours
import Banter.Proofs.Writing.Plain

namespace Banter

open Writing (rendered continuation)

theorem Mark.isBlank_char (kind : Mark) : Text.isBlank kind.char = false := by
  cases kind <;> rfl

namespace Symbol

/-- Whether a mark that comes right after a symbol is read as part of an address, where the symbol stands at the
start of a sentence or within one. -/
def Clashes (atStart : Bool) : Symbol → Symbol → Prop
  | address _, mark _ => True
  | word text, mark .colon => (text = "HTTP" ∨ text = "HTTPS") ∧ atStart = false
  | _, _ => False

theorem clashes_iff {atStart : Bool} {symbol next : Symbol} : symbol.Clashes atStart next ↔
    (∃ text kind, symbol = address text ∧ next = mark kind) ∨
      ∃ text, symbol = word text ∧ next = mark .colon ∧ (text = "HTTP" ∨ text = "HTTPS") ∧ atStart = false := by
  cases symbol with
  | word text =>
    cases next with
    | mark kind => cases kind <;> simp [Clashes]
    | _ => simp [Clashes]
  | address text => cases next <;> simp [Clashes]
  | _ => simp [Clashes]

/-- The character that a symbol begins with where it is written after others. -/
def firstChar : Symbol → Char
  | mark kind => kind.char
  | _ => ' '

theorem isWordChar_firstChar (symbol : Symbol) : isWordChar symbol.firstChar = false := by
  have hspace : isWordChar ' ' = false := by decide
  cases symbol with
  | mark kind => exact kind.isWordChar_char
  | _ => exact hspace

theorem eq_colon_of_firstChar {symbol : Symbol} (h : symbol.firstChar = ':') : symbol = mark .colon := by
  cases symbol with
  | mark kind => cases kind <;> first | rfl | exact absurd h (by decide)
  | _ => exact absurd h (show ' ' ≠ ':' by decide)

end Symbol

namespace Writing

theorem continuation_mark (atStart : Bool) (kind : Mark) (rest : List Symbol) :
    continuation atStart (.mark kind :: rest) = kind.char :: continuation kind.endsSentence rest := by
  rw [continuation_cons (by simp), toList_rendered_mark]
  rfl

theorem continuation_append_stop (atStart : Bool) (symbols : List Symbol) :
    continuation atStart (symbols ++ [.stop]) = continuation atStart symbols := by
  induction symbols generalizing atStart with
  | nil => rfl
  | cons symbol rest ih =>
    by_cases hstop : symbol = .stop
    · rw [hstop]
      rfl
    · rw [List.cons_append, continuation_cons hstop, continuation_cons hstop, ih]

theorem ne_stop_of_isPlain {symbol : Symbol} (h : symbol.IsPlain) : symbol ≠ .stop := by
  intro hstop
  rw [hstop] at h
  exact h

theorem head?_continuation {symbols : List Symbol} (h : ∀ symbol ∈ symbols, symbol.IsPlain) (atStart : Bool) :
    (continuation atStart symbols).head? = symbols.head?.map Symbol.firstChar := by
  cases symbols with
  | nil => rfl
  | cons symbol rest =>
    cases symbol with
    | mark kind => rw [continuation_mark]; rfl
    | stop => exact absurd rfl (ne_stop_of_isPlain (h _ List.mem_cons_self))
    | word text => rfl
    | address text => rfl

theorem symbols_space (chars : List Char) :
    (Scanning.ongoing (' ' :: chars)).symbols = (Scanning.ongoing chars).symbols := by
  have hfits : Piece.FitsBefore chars (.gap ' ') := ⟨by decide, by decide⟩
  exact Scanning.symbols_of_fits hfits

theorem symbols_continuation_cons {symbol : Symbol} (h : symbol.IsPlain) (atStart : Bool)
    (rest : List Symbol) :
    (Scanning.ongoing (continuation atStart (symbol :: rest))).symbols =
      (Scanning.ongoing ((rendered atStart symbol).toList ++
        continuation symbol.endsSentence rest)).symbols := by
  rw [continuation_cons (ne_stop_of_isPlain h)]
  cases isSpaced symbol with
  | true => exact symbols_space _
  | false => rfl

section Step

variable {symbol : Symbol} {rest : List Symbol} {atStart : Bool}

/-- A symbol is written as a piece that reads as the symbol, unless the next symbol clashes with it. -/
theorem exists_piece_rendered (h : symbol.IsPlain) (hrest : ∀ next ∈ rest, next.IsPlain)
    (hnot : ∀ next ∈ rest.head?, ¬symbol.Clashes atStart next) :
    ∃ piece : Piece, piece.chars = (rendered atStart symbol).toList ∧ piece.symbol? = some symbol ∧
      piece.FitsBefore (continuation symbol.endsSentence rest) := by
  have hfirst : ∀ c ∈ (continuation symbol.endsSentence rest).head?,
      ∃ next ∈ rest.head?, next.firstChar = c := by
    intro c hc
    rw [head?_continuation hrest] at hc
    simpa using hc
  cases symbol with
  | word text =>
    obtain ⟨hsome, hrun⟩ := isWord_rendered_word h atStart
    refine ⟨.word (rendered atStart (.word text)).toList, rfl, symbol?_rendered_word h atStart, hsome,
      fun d hd => (hrun d hd).2, ?_, ?_⟩
    · intro c hc
      obtain ⟨next, _, hnext⟩ := hfirst c hc
      rw [← hnext]
      exact next.isWordChar_firstChar
    · intro hboth
      obtain ⟨hscheme, hcolon⟩ := hboth
      obtain ⟨next, hmem, hnext⟩ := hfirst ':' hcolon
      apply hnot next hmem
      rw [Symbol.eq_colon_of_firstChar hnext]
      exact (isScheme_rendered_word_iff h atStart).mp hscheme
  | mark kind => exact ⟨.mark kind, (toList_rendered_mark atStart kind).symm, rfl, trivial⟩
  | address text =>
    obtain ⟨scheme, tail, htext, hscheme, htail⟩ := h
    refine ⟨.address scheme tail, ?_, ?_, hscheme, htail, ?_⟩
    · rw [rendered, htext, String.toList_ofList]
      rfl
    · rw [htext]
      rfl
    · intro c hc
      obtain ⟨next, hmem, hnext⟩ := hfirst c hc
      cases next with
      | mark kind => exact absurd trivial (hnot (.mark kind) hmem)
      | _ =>
        rw [← hnext]
        rfl
  | stop => exact absurd rfl (ne_stop_of_isPlain h)

/-- A mark that clashes with the symbol before it becomes part of another one. -/
theorem symbols_ne_of_clash (h : symbol.IsPlain) {next : Symbol} (hclash : symbol.Clashes atStart next)
    (more symbols : List Symbol) :
    (Scanning.ongoing ((rendered atStart symbol).toList ++
      continuation symbol.endsSentence (next :: more))).symbols ≠ symbol :: symbols := by
  intro hsymbols
  rw [Scanning.symbols_ongoing] at hsymbols
  have hfirst := (List.cons.inj hsymbols).1
  rcases Symbol.clashes_iff.mp hclash with ⟨text, kind, rfl, rfl⟩ | ⟨text, rfl, rfl, hwritten⟩
  · obtain ⟨scheme, tail, htext, hscheme, htail⟩ := h
    have hinside : ∀ c ∈ tail ++ [kind.char], (!Text.isBlank c) = true := by
      simpa [or_imp, forall_and, Mark.isBlank_char] using htail
    have hchars : (rendered atStart (.address text)).toList ++
        kind.char :: continuation kind.endsSentence more =
          scheme ++ ':' :: (tail ++ [kind.char] ++ continuation kind.endsSentence more) := by
      rw [rendered, htext, String.toList_ofList]
      simp only [List.append_assoc, List.cons_append, List.nil_append]
    rw [continuation_mark, hchars, Scanning.scan_scheme hscheme, List.takeWhile_append_of_pos hinside,
      htext] at hfirst
    -- The address that is read has the mark in it, so that it is longer.
    have hlength := congrArg List.length (String.ofList_injective (Symbol.address.inj hfirst))
    simp only [List.length_append, List.length_cons] at hlength
    omega
  · have hscheme := (isScheme_rendered_word_iff h atStart).mpr hwritten
    rw [continuation_mark, Mark.char, Scanning.scan_scheme hscheme] at hfirst
    exact absurd hfirst (by simp)

end Step

/-- Whether no symbol clashes with the one before it, from the start of a sentence or from within one. -/
def ReadsBack (atStart : Bool) : List Symbol → Prop
  | [] => True
  | symbol :: rest => (∀ next ∈ rest.head?, ¬symbol.Clashes atStart next) ∧ ReadsBack symbol.endsSentence rest

theorem readsBack_append_stop (atStart : Bool) (symbols : List Symbol) :
    ReadsBack atStart (symbols ++ [.stop]) ↔ ReadsBack atStart symbols := by
  induction symbols generalizing atStart with
  | nil => simp [ReadsBack]
  | cons symbol rest ih =>
    rw [List.cons_append, ReadsBack, ReadsBack, ih]
    cases rest with
    | nil =>
      have hstop : ¬symbol.Clashes atStart .stop := by cases symbol <;> exact id
      simp [hstop]
    | cons next more => rfl

/-- Whether a sentence starts after symbols that begin at the start of a sentence or within one. -/
def startsAfter (atStart : Bool) (symbols : List Symbol) : Bool :=
  symbols.foldl (fun _ symbol => symbol.endsSentence) atStart

theorem startsAfter_iff {symbols : List Symbol} :
    startsAfter true symbols = true ↔ ∀ previous ∈ symbols.getLast?,
      previous = .mark .period ∨ previous = .mark .exclamation ∨ previous = .mark .question := by
  rcases List.eq_nil_or_concat symbols with rfl | ⟨front, last, rfl⟩
  · simp [startsAfter]
  · simp [startsAfter, Symbol.endsSentence_iff]

theorem readsBack_iff_split {symbols : List Symbol} (atStart : Bool) :
    ReadsBack atStart symbols ↔ ∀ front symbol next back, symbols = front ++ symbol :: next :: back →
      ¬symbol.Clashes (startsAfter atStart front) next := by
  induction symbols generalizing atStart with
  | nil => simp [ReadsBack]
  | cons symbol rest ih =>
    rw [ReadsBack, ih]
    constructor
    · intro hboth front first next back hsplit
      cases front with
      | nil =>
        obtain ⟨rfl, rfl⟩ := List.cons.inj hsplit
        exact hboth.1 next rfl
      | cons before front =>
        obtain ⟨rfl, hrest⟩ := List.cons.inj hsplit
        exact hboth.2 front first next back hrest
    · intro hall
      constructor
      · intro next hnext
        obtain ⟨more, rfl⟩ := List.head?_eq_some_iff.mp hnext
        exact hall [] symbol next more rfl
      · intro front first next back hsplit
        exact hall (symbol :: front) first next back (by rw [hsplit]; rfl)

/-- In symbols that read back there is no mark right after an address, and no colon right after a word that is
written as a scheme. -/
theorem readsBack_iff {symbols : List Symbol} : ReadsBack true symbols ↔
    (∀ front address kind back, symbols ≠ front ++ .address address :: .mark kind :: back) ∧
    ∀ front word back, symbols = front ++ .word word :: .mark .colon :: back →
      word = "HTTP" ∨ word = "HTTPS" → ∀ previous ∈ front.getLast?,
        previous = .mark .period ∨ previous = .mark .exclamation ∨ previous = .mark .question := by
  rw [readsBack_iff_split]
  constructor
  · intro hnot
    constructor
    · intro front address kind back hsplit
      exact hnot front (.address address) (.mark kind) back hsplit trivial
    · intro front word back hsplit hword
      rw [← startsAfter_iff, ← Bool.not_eq_false]
      intro hwithin
      exact hnot front (.word word) (.mark .colon) back hsplit ⟨hword, hwithin⟩
  · intro hboth front symbol next back hsplit hclash
    obtain ⟨haddress, hword⟩ := hboth
    rcases Symbol.clashes_iff.mp hclash with ⟨text, kind, rfl, rfl⟩ | ⟨text, rfl, rfl, hscheme, hwithin⟩
    · exact haddress front text kind back hsplit
    · have hstarts := startsAfter_iff.mpr (hword front text back hsplit hscheme)
      rw [hwithin] at hstarts
      exact Bool.noConfusion hstarts

/-- Plain symbols are read again from what they are written as just if none clashes with the one before it. -/
theorem symbols_continuation_iff {symbols : List Symbol} (h : ∀ symbol ∈ symbols, symbol.IsPlain)
    (atStart : Bool) :
    (Scanning.ongoing (continuation atStart symbols)).symbols = symbols ++ [.stop] ↔
      ReadsBack atStart symbols := by
  induction symbols generalizing atStart with
  | nil => simp [continuation, ReadsBack, Scanning.symbols_ongoing, Scanning.scan]
  | cons symbol rest ih =>
    obtain ⟨hfirst, hrest⟩ := List.forall_mem_cons.mp h
    rw [symbols_continuation_cons hfirst, ReadsBack]
    by_cases hnot : ∀ next ∈ rest.head?, ¬symbol.Clashes atStart next
    · obtain ⟨piece, hchars, hsymbol, hfits⟩ := exists_piece_rendered hfirst hrest hnot
      rw [← hchars, Scanning.symbols_of_fits hfits, hsymbol, Option.toList_some, List.singleton_append,
        List.cons_append, List.cons_inj_right, ih hrest, and_iff_right hnot]
    · simp only [hnot, false_and, iff_false]
      intro hsymbols
      apply hnot
      intro next hnext hclash
      obtain ⟨more, rfl⟩ := List.head?_eq_some_iff.mp hnext
      exact symbols_ne_of_clash hfirst hclash more _ hsymbols

theorem hasText_of_isPlain {symbol : Symbol} (h : symbol.IsPlain) : symbol.HasText := by
  cases symbol with
  | word text => exact h.1
  | address text =>
    obtain ⟨scheme, tail, htext, _⟩ := h
    rw [Symbol.HasText, htext, ne_eq, ← String.toList_eq_nil_iff, String.toList_ofList]
    exact List.append_ne_nil_of_right_ne_nil scheme (List.cons_ne_nil _ _)
  | mark kind => trivial
  | stop => trivial

/-- A text reads as what goes on from it does. -/
theorem symbolsOf_textOf_cons {symbol : Symbol} (h : symbol.IsPlain) (rest : List Symbol) :
    symbolsOf (textOf (symbol :: rest)) = (Scanning.ongoing (continuation true (symbol :: rest))).symbols := by
  have hsome := rendered_ne_empty (ne_stop_of_isPlain h) (hasText_of_isPlain h) true
  have hchars := toList_textOf (ne_stop_of_isPlain h) hsome rest
  have htext : textOf (symbol :: rest) ≠ "" := by
    intro hnone
    rw [hnone] at hchars
    simp [hsome] at hchars
  rw [symbolsOf_eq_symbols htext, hchars, symbols_continuation_cons h]

end Writing

/-- The symbols of an ASCII text with a symbol besides the stop are read again from the text that they are
written as, unless there is a mark right after an address, or a colon right after a word that is written as a
scheme. -/
theorem symbolsOf_textOf_symbolsOf {text : String} (hascii : ∀ c ∈ text.toList, c.toNat < 128)
    (hsome : ∃ symbol ∈ symbolsOf text, symbol ≠ .stop) :
    symbolsOf (textOf (symbolsOf text)) = symbolsOf text ↔
      (∀ front address kind back, symbolsOf text ≠ front ++ .address address :: .mark kind :: back) ∧
      ∀ front word back, symbolsOf text = front ++ .word word :: .mark .colon :: back →
        word = "HTTP" ∨ word = "HTTPS" → ∀ previous ∈ front.getLast?,
          previous = .mark .period ∨ previous = .mark .exclamation ∨ previous = .mark .question := by
  obtain ⟨first, hfirst, hnot⟩ := hsome
  have htext : text ≠ "" := by
    intro hnone
    rw [symbolsOf_eq_nil_iff.mpr hnone] at hfirst
    exact absurd hfirst List.not_mem_nil
  obtain ⟨pieces, hpieces⟩ := Scanning.exists_fallsInto text.toList
  have hplain := hpieces.isPlain hascii
  have hsymbols := symbolsOf_of_fallsInto hpieces
  rw [if_neg htext] at hsymbols
  generalize pieces.filterMap Piece.symbol? = symbols at hplain hsymbols
  rw [hsymbols] at hfirst ⊢
  cases symbols with
  | nil => exact absurd (List.mem_singleton.mp hfirst) hnot
  | cons symbol rest =>
    rw [List.cons_append, Writing.symbolsOf_textOf_cons (hplain symbol List.mem_cons_self), ← List.cons_append,
      Writing.continuation_append_stop, Writing.symbols_continuation_iff hplain,
      ← Writing.readsBack_append_stop, Writing.readsBack_iff]

theorem symbolsOf_textOf_symbolsOf_schemes :
    let text := "Http: a (b.) Https: c https://x.Y z"
    (∀ c ∈ text.toList, c.toNat < 128) ∧ (∃ symbol ∈ symbolsOf text, symbol ≠ .stop) ∧
      symbolsOf (textOf (symbolsOf text)) = symbolsOf text := by
  intro text
  have hascii : ∀ c ∈ text.toList, c.toNat < 128 := by simp [text]
  have hsymbols : symbolsOf text = [.word "HTTP", .mark .colon, .word "A", .word "B", .mark .period,
      .word "HTTPS", .mark .colon, .word "C", .address "https://x.Y", .word "Z", .stop] := by decide +kernel
  have hsome : ∃ symbol ∈ symbolsOf text, symbol ≠ .stop := ⟨.word "A", by simp [hsymbols], by simp⟩
  have hback : Writing.ReadsBack true (symbolsOf text) := by
    rw [hsymbols]
    simp [Writing.ReadsBack, Symbol.Clashes, Symbol.endsSentence, Mark.endsSentence]
  exact ⟨hascii, hsome, (symbolsOf_textOf_symbolsOf hascii hsome).mpr (Writing.readsBack_iff.mp hback)⟩

end Banter
