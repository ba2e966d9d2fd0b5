import Mathlib.Tactic.SplitIfs
import Banter.Proofs.Writing.Continuation

/-!
# What a symbol adds to a text

Where no word or address is empty, each symbol is separated and spelled as the symbol directly before it
has it, and as nothing else has. So a text after the end of a sentence is the text that it is on its own.
-/

namespace Banter

namespace Text

theorem upperChar_ne_nil (c : Char) : upperChar c ≠ [] := by
  have hsome : ∀ entry ∈ upperExpansions.toList, entry.2 ≠ [] := by decide +kernel
  unfold upperChar
  split
  · exact List.cons_ne_nil _ _
  · split
    next points hpoints =>
      obtain ⟨entry, hentry, hsame⟩ := Option.bind_eq_some_iff.mp hpoints
      have hpoints : points = entry.2 := by
        split at hsame
        next => exact (Option.some.inj hsame).symm
        next => exact absurd hsame (by simp)
      rw [hpoints, ne_eq, List.map_eq_nil_iff]
      exact hsome entry (Array.mem_toList_iff.mpr (Array.mem_of_getElem? hentry))
    next => exact List.cons_ne_nil _ _

theorem lowerBetween_ne_nil (before : List Char) (c : Char) (after : List Char) :
    lowerBetween before c after ≠ [] := by
  unfold lowerBetween lowerChar
  split_ifs <;> exact List.cons_ne_nil _ _

theorem lower_ne_empty {text : String} (h : text ≠ "") : lower text ≠ "" := by
  obtain ⟨c, rest, htext⟩ := List.ne_nil_iff_exists_cons.mp (mt String.toList_eq_nil_iff.mp h)
  rw [lower, ne_eq, ← String.toList_eq_nil_iff, String.toList_ofList, htext, lowerChars, lowerOnto,
    lowerOnto_eq_append]
  simp [lowerBetween_ne_nil]

theorem capitalize_ne_empty {text : String} (h : text ≠ "") : capitalize text ≠ "" := by
  obtain ⟨c, rest, htext⟩ := List.ne_nil_iff_exists_cons.mp (mt String.toList_eq_nil_iff.mp h)
  rw [capitalize, htext, ne_eq, ← String.toList_eq_nil_iff, String.toList_ofList]
  simp [upperChar_ne_nil]

end Text

/-- A word or an address has characters. -/
def Symbol.HasText : Symbol → Prop
  | word text | address text => text ≠ ""
  | mark _ | stop => True

namespace Writing

/-- What separates a symbol from the one directly before it, if there is one. -/
def separation : Option Symbol → Symbol → String
  | some _, .word _ | some _, .address _ => " "
  | _, _ => ""

/-- Whether a symbol begins a sentence behind the one directly before it, if there is one. -/
def BeginsSentence (before : Option Symbol) : Prop :=
  before = none ∨ before = some (.mark .period) ∨ before = some (.mark .exclamation) ∨
    before = some (.mark .question)

instance (before : Option Symbol) : Decidable (BeginsSentence before) :=
  inferInstanceAs (Decidable (_ ∨ _))

def spelling (before : Option Symbol) : Symbol → String
  | .word text =>
    if BeginsSentence before then Text.capitalize (Text.lower text) else Text.lower text
  | .mark kind => String.singleton kind.char
  | .address text => text
  | .stop => ""

/-- What a symbol adds to a text behind the one directly before it, if there is one. -/
def addition (before : Option Symbol) (symbol : Symbol) : String :=
  separation before symbol ++ spelling before symbol

def shown (symbols : List Symbol) : List Symbol :=
  symbols.takeWhile (· ≠ .stop)

/-- What each of a list of symbols adds behind the one before it. -/
def additions (symbols : List Symbol) : List String :=
  List.zipWith addition (none :: symbols.map some) symbols

theorem shown_cons {symbol : Symbol} (h : symbol ≠ .stop) (rest : List Symbol) :
    shown (symbol :: rest) = symbol :: shown rest := by
  simp [shown, h]

theorem beginsSentence_some_iff {before : Symbol} :
    BeginsSentence (some before) ↔ before.endsSentence = true := by
  simp [BeginsSentence, Symbol.endsSentence_iff]

theorem rendered_eq_spelling (before : Option Symbol) (symbol : Symbol) :
    rendered (decide (BeginsSentence before)) symbol = spelling before symbol := by
  cases symbol with
  | word text => by_cases h : BeginsSentence before <;> simp [rendered, spelling, h, Symbol.text]
  | mark kind =>
    rw [← String.toList_inj, toList_rendered_mark]
    simp [spelling]
  | address text => rfl
  | stop =>
    cases decide (BeginsSentence before) <;> rfl

theorem toList_separation_some (before symbol : Symbol) :
    (separation (some before) symbol).toList = if isSpaced symbol then [' '] else [] := by
  cases symbol <;> simp [separation, isSpaced]

/-- Once a text has a symbol, it goes on as each symbol has it from the one before. -/
theorem continuation_eq_flatMap (before : Symbol) (symbols : List Symbol) :
    continuation before.endsSentence symbols =
      (List.zipWith addition ((before :: shown symbols).map some) (shown symbols)).flatMap String.toList := by
  induction symbols generalizing before with
  | nil => rfl
  | cons symbol rest ih =>
    by_cases hstop : symbol = .stop
    · rw [hstop]
      rfl
    · have hspelling : rendered before.endsSentence symbol = spelling (some before) symbol := by
        rw [← rendered_eq_spelling]
        simp [beginsSentence_some_iff]
      rw [continuation_cons hstop, shown_cons hstop, List.map_cons, List.zipWith_cons_cons,
        List.flatMap_cons, ← ih, addition, String.toList_append, toList_separation_some, hspelling,
        List.append_assoc]

theorem rendered_ne_empty {symbol : Symbol} (hstop : symbol ≠ .stop) (h : symbol.HasText) (atStart : Bool) :
    rendered atStart symbol ≠ "" := by
  cases symbol with
  | word text =>
    have hlower := Text.lower_ne_empty h
    cases atStart with
    | true => exact Text.capitalize_ne_empty hlower
    | false => exact hlower
  | mark kind =>
    rw [ne_eq, ← String.toList_eq_nil_iff, toList_rendered_mark]
    exact List.cons_ne_nil _ _
  | address text => exact h
  | stop => exact absurd rfl hstop

/-- A text is what its symbols add, each behind the one before it. -/
theorem textOf_eq_join {symbols : List Symbol} (h : ∀ symbol ∈ symbols, symbol.HasText) :
    textOf symbols = String.join (additions (shown symbols)) := by
  cases symbols with
  | nil => rfl
  | cons symbol rest =>
    by_cases hstop : symbol = .stop
    · rw [hstop]
      rfl
    · have hsome := rendered_ne_empty hstop (h symbol List.mem_cons_self) true
      have hspelling : rendered true symbol = addition none symbol := by
        rw [addition, ← rendered_eq_spelling]
        cases symbol <;> simp [separation, BeginsSentence]
      rw [← String.toList_inj, String.toList_join, toList_textOf hstop hsome, continuation_eq_flatMap,
        shown_cons hstop, additions, List.zipWith_cons_cons, List.flatMap_cons, hspelling]

theorem onto_append {front : List Symbol} {last : Symbol} (h : ∀ symbol ∈ front ++ [last], symbol ≠ .stop)
    (written : String) (atStart : Bool) (back : List Symbol) :
    onto written atStart (front ++ last :: back) =
      onto (onto written atStart (front ++ [last])) last.endsSentence back := by
  induction front generalizing written atStart with
  | nil =>
    have hlast := h last (by simp)
    rw [List.nil_append, List.nil_append, onto_cons hlast, onto_cons hlast, onto]
  | cons symbol front ih =>
    obtain ⟨hfirst, hrest⟩ := List.forall_mem_cons.mp h
    rw [List.cons_append, List.cons_append, onto_cons hfirst, onto_cons hfirst, ih hrest]

theorem textOf_ne_empty {symbols : List Symbol} (hsome : symbols ≠ [])
    (hstop : ∀ symbol ∈ symbols, symbol ≠ .stop) (h : ∀ symbol ∈ symbols, symbol.HasText) :
    textOf symbols ≠ "" := by
  obtain ⟨symbol, rest, rfl⟩ := List.ne_nil_iff_exists_cons.mp hsome
  have hfirst := hstop symbol List.mem_cons_self
  have hrendered := rendered_ne_empty hfirst (h symbol List.mem_cons_self) true
  rw [ne_eq, ← String.toList_eq_nil_iff, toList_textOf hfirst hrendered]
  simp [hrendered]

/-- What symbols add at the start of a sentence is the text that they are on their own. -/
theorem continuation_true {symbols : List Symbol} (h : ∀ symbol ∈ symbols, symbol.HasText) :
    continuation true symbols =
      (if symbols.head?.any isSpaced then [' '] else []) ++ (textOf symbols).toList := by
  cases symbols with
  | nil => rfl
  | cons symbol rest =>
    by_cases hstop : symbol = .stop
    · rw [hstop]
      rfl
    · have hrendered := rendered_ne_empty hstop (h symbol List.mem_cons_self) true
      rw [continuation_cons hstop, toList_textOf hstop hrendered]
      rfl

theorem textOf_append_of_endsSentence {front back : List Symbol} {last : Symbol}
    (hstop : ∀ symbol ∈ front ++ [last], symbol ≠ .stop)
    (hfront : ∀ symbol ∈ front ++ [last], symbol.HasText) (hback : ∀ symbol ∈ back, symbol.HasText)
    (hends : last.endsSentence = true) :
    textOf (front ++ [last] ++ back) =
      textOf (front ++ [last]) ++ (if back.head?.any isSpaced then " " else "") ++ textOf back := by
  have hwritten : textOf (front ++ [last]) ≠ "" := textOf_ne_empty (by simp) hstop hfront
  have hsplit : textOf (front ++ [last] ++ back) = onto (textOf (front ++ [last])) true back := by
    rw [textOf, List.append_assoc, List.singleton_append, onto_append hstop, hends, textOf]
  rw [hsplit, ← String.toList_inj, toList_onto hwritten, continuation_true hback]
  cases back.head?.any isSpaced <;> simp

/-- A text is what its symbols up to the first stop add, each behind the one before it. A text after the end
of a sentence is the text that it is on its own, after a space if it begins with a word or an address. -/
theorem textOf_local :
    (∀ symbols : List Symbol, (∀ symbol ∈ symbols, symbol.HasText) →
      textOf symbols = String.join (additions (shown symbols))) ∧
    ∀ front back : List Symbol, (∀ symbol ∈ front ++ back, symbol.HasText) →
      (∀ symbol ∈ front ++ back, symbol ≠ .stop) →
      (∃ kind ∈ [Mark.period, .exclamation, .question], front.getLast? = some (.mark kind)) →
      textOf (front ++ back) =
        textOf front ++ (if back.head?.any isSpaced then " " else "") ++ textOf back := by
  refine ⟨fun _ h => textOf_eq_join h, ?_⟩
  rintro front back htext hstop ⟨kind, hkind, hlast⟩
  obtain ⟨prior, rfl⟩ := List.getLast?_eq_some_iff.mp hlast
  obtain ⟨hfront, hback⟩ := List.forall_mem_append.mp htext
  have hends : (Symbol.mark kind).endsSentence = true := by
    rw [Symbol.endsSentence_iff]
    simpa using hkind
  exact textOf_append_of_endsSentence (List.forall_mem_append.mp hstop).1 hfront hback hends

/-- Two sentences, the second with an address at its start. -/
theorem textOf_local_two_sentences :
    textOf ([.word "HELLO", .mark .exclamation] ++ [.address "http://A.b", .word "IT", .mark .period, .stop]) =
        "Hello! http://A.b it." ∧
      textOf ([.word "HELLO", .mark .exclamation] ++ [.address "http://A.b", .word "IT", .mark .period]) =
        textOf [.word "HELLO", .mark .exclamation] ++ " " ++
          textOf [.address "http://A.b", .word "IT", .mark .period] := by
  constructor
  · rw [textOf_local.1 _ (by simp [Symbol.HasText])]
    decide +kernel
  · exact textOf_local.2 _ _ (by simp [Symbol.HasText]) (by decide) ⟨.exclamation, by decide, rfl⟩

end Writing

end Banter
