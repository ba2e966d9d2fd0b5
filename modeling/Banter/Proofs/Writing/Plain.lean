import Banter.Proofs.Reading.Pieces
import Banter.Proofs.Text.Ascii
import Banter.Proofs.Writing.Continuation

namespace Banter

open Text (IsAscii)
open Writing (rendered)

namespace Symbol

/-- What a word, a mark or an address from a text of ASCII characters is. -/
def IsPlain : Symbol → Prop
  | word text => text ≠ "" ∧ ∀ c ∈ text.toList, IsAscii c ∧ isWordChar c = true ∧ c.toUpper = c
  | mark _ => True
  | address text => ∃ scheme tail, text = String.ofList (scheme ++ ':' :: tail) ∧ Piece.IsScheme scheme ∧
      ∀ c ∈ tail, Text.isBlank c = false
  | stop => False

end Symbol

theorem Piece.isPlain_of_symbol? {piece : Piece} {after : List Char} (h : piece.FitsBefore after)
    (hascii : ∀ c ∈ piece.chars, IsAscii c) {symbol : Symbol} (hsymbol : piece.symbol? = some symbol) :
    symbol.IsPlain := by
  cases piece with
  | word run =>
    obtain ⟨hsome, hrun, _⟩ := h
    obtain rfl := Option.some.inj hsymbol
    have hupper : (Text.upper (String.ofList run)).toList = run.map Char.toUpper := by
      rw [Text.upper, String.toList_ofList, String.toList_ofList]
      exact Text.upperChars_of_ascii hascii
    rw [Symbol.IsPlain, ne_eq, ← String.toList_eq_nil_iff, hupper, List.map_eq_nil_iff]
    refine ⟨hsome, ?_⟩
    intro c hc
    obtain ⟨d, hd, rfl⟩ := List.mem_map.mp hc
    have hdAscii := hascii d hd
    exact ⟨hdAscii.toUpper, by rw [Text.isWordChar_toUpper hdAscii, hrun d hd], Text.toUpper_toUpper hdAscii⟩
  | address scheme tail =>
    obtain rfl := Option.some.inj hsymbol
    exact ⟨scheme, tail, rfl, h.1, h.2.1⟩
  | mark kind =>
    obtain rfl := Option.some.inj hsymbol
    trivial
  | gap c => exact absurd hsymbol (by simp [symbol?])

theorem FallsInto.isPlain {chars : List Char} {pieces : List Piece} (h : FallsInto chars pieces)
    (hascii : ∀ c ∈ chars, IsAscii c) : ∀ symbol ∈ pieces.filterMap Piece.symbol?, symbol.IsPlain := by
  induction h with
  | nil => simp
  | @cons piece after pieces fits _ ih =>
    obtain ⟨hfirst, hrest⟩ := List.forall_mem_append.mp hascii
    intro symbol hsymbol
    simp only [List.mem_filterMap, List.mem_cons, exists_eq_or_imp] at hsymbol
    rcases hsymbol with hhere | hlater
    · exact Piece.isPlain_of_symbol? fits hfirst hhere
    · exact ih hrest symbol (List.mem_filterMap.mpr hlater)

namespace Writing

section Words

variable {text : String}

/-- The first character of a word stands as it is at the start of a sentence. All others are in lower case. -/
theorem exists_rendered_word (h : (Symbol.word text).IsPlain) (atStart : Bool) : ∃ c rest,
    text.toList = c :: rest ∧ (rendered atStart (.word text)).toList =
      (if atStart then c else c.toLower) :: rest.map Char.toLower := by
  obtain ⟨hsome, hchars⟩ := h
  obtain ⟨c, rest, htext⟩ := List.ne_nil_iff_exists_cons.mp (show text.toList ≠ [] by simpa using hsome)
  obtain ⟨hascii, _, hupper⟩ := hchars c (by simp [htext])
  have hlower : (Text.lower text).toList = c.toLower :: rest.map Char.toLower := by
    rw [Text.toList_lower_of_ascii fun d hd => (hchars d hd).1, htext, List.map_cons]
  refine ⟨c, rest, htext, ?_⟩
  cases atStart with
  | false => exact hlower
  | true =>
    have hcapital := Text.toList_capitalize_of_ascii hlower hascii.toLower
    rw [Text.toUpper_toLower hascii, hupper] at hcapital
    exact hcapital

theorem map_toUpper_rendered_word (h : (Symbol.word text).IsPlain) (atStart : Bool) :
    (rendered atStart (.word text)).toList.map Char.toUpper = text.toList := by
  obtain ⟨c, rest, htext, hrendered⟩ := exists_rendered_word h atStart
  have hfixed : ∀ d ∈ c :: rest, d.toUpper = d ∧ d.toLower.toUpper = d := by
    intro d hd
    obtain ⟨hascii, _, hupper⟩ := h.2 d (by rwa [htext])
    exact ⟨hupper, by rw [Text.toUpper_toLower hascii, hupper]⟩
  obtain ⟨hfirst, hmore⟩ := List.forall_mem_cons.mp hfixed
  rw [hrendered, htext, List.map_cons, List.map_map]
  congr 1
  · cases atStart
    · exact hfirst.2
    · exact hfirst.1
  · calc
      rest.map (Char.toUpper ∘ Char.toLower) = rest.map id :=
        List.map_congr_left fun d hd => (hmore d hd).2
      _ = rest := List.map_id rest

theorem isWord_rendered_word (h : (Symbol.word text).IsPlain) (atStart : Bool) :
    (rendered atStart (.word text)).toList ≠ [] ∧
      ∀ d ∈ (rendered atStart (.word text)).toList, IsAscii d ∧ Symbol.isWordChar d = true := by
  obtain ⟨c, rest, htext, hrendered⟩ := exists_rendered_word h atStart
  have hchars : ∀ d ∈ c :: rest, (IsAscii d ∧ Symbol.isWordChar d = true) ∧
      IsAscii d.toLower ∧ Symbol.isWordChar d.toLower = true := by
    intro d hd
    obtain ⟨hascii, hword, _⟩ := h.2 d (by rwa [htext])
    exact ⟨⟨hascii, hword⟩, hascii.toLower, by rw [Text.isWordChar_toLower hascii, hword]⟩
  obtain ⟨hfirst, hmore⟩ := List.forall_mem_cons.mp hchars
  rw [hrendered]
  refine ⟨List.cons_ne_nil _ _, ?_⟩
  intro d hd
  rcases List.mem_cons.mp hd with hd | hd
  · rw [hd]
    cases atStart
    · exact hfirst.2
    · exact hfirst.1
  · obtain ⟨e, he, hde⟩ := List.mem_map.mp hd
    rw [← hde]
    exact (hmore e he).2

theorem symbol?_rendered_word (h : (Symbol.word text).IsPlain) (atStart : Bool) :
    (Piece.word (rendered atStart (.word text)).toList).symbol? = some (.word text) := by
  have hascii : ∀ d ∈ (rendered atStart (.word text)).toList, IsAscii d :=
    fun d hd => ((isWord_rendered_word h atStart).2 d hd).1
  rw [Piece.symbol?, String.ofList_toList, Text.upper, Text.upperChars_of_ascii hascii,
    map_toUpper_rendered_word h, String.ofList_toList]

/-- A word is written as the scheme of an address just within a sentence. -/
theorem isScheme_rendered_word_iff (h : (Symbol.word text).IsPlain) (atStart : Bool) :
    Piece.IsScheme (rendered atStart (.word text)).toList ↔
      (text = "HTTP" ∨ text = "HTTPS") ∧ atStart = false := by
  constructor
  · intro hscheme
    have hupper := map_toUpper_rendered_word h atStart
    obtain ⟨c, rest, htext, hrendered⟩ := exists_rendered_word h atStart
    have hfirst : atStart = true → (rendered atStart (.word text)).toList.head? = text.toList.head? := by
      intro hstart
      rw [hrendered, htext, if_pos hstart]
      rfl
    rw [isScheme_iff, Scanning.isScheme, Bool.or_eq_true, beq_iff_eq, beq_iff_eq] at hscheme
    rw [← String.toList_inj, ← String.toList_inj, ← hupper]
    rw [← hupper] at hfirst
    rcases hscheme with hscheme | hscheme
    · rw [hscheme] at hfirst ⊢
      exact ⟨Or.inl rfl, by simpa using mt hfirst (by decide)⟩
    · rw [hscheme] at hfirst ⊢
      exact ⟨Or.inr rfl, by simpa using mt hfirst (by decide)⟩
  · intro hboth
    obtain ⟨htext, rfl⟩ := hboth
    rcases htext with rfl | rfl
    · exact Or.inl rfl
    · exact Or.inr rfl

end Words

end Writing

end Banter
