import Banter.Writing

/-!
# How a text goes on

What symbols add to a text depends on the text so far only by whether a sentence ends there, once it has any
characters.
-/

namespace Banter

theorem Symbol.endsSentence_iff {symbol : Symbol} : symbol.endsSentence = true ↔
    symbol = mark .period ∨ symbol = mark .exclamation ∨ symbol = mark .question := by
  cases symbol with
  | mark kind => cases kind <;> simp [endsSentence, Mark.endsSentence]
  | _ => simp [endsSentence]

namespace Writing

def rendered (atStart : Bool) : Symbol → String
  | .address text => text
  | symbol =>
    if atStart then Text.capitalize (Text.lower symbol.text) else Text.lower symbol.text

/-- The characters that symbols add to a text with characters, at the start of a sentence or within one. -/
def continuation (atStart : Bool) : List Symbol → List Char
  | [] => []
  | .stop :: _ => []
  | symbol :: rest =>
    (if isSpaced symbol then [' '] else []) ++
      ((rendered atStart symbol).toList ++ continuation symbol.endsSentence rest)

theorem toList_rendered_mark (atStart : Bool) (kind : Mark) :
    (rendered atStart (.mark kind)).toList = [kind.char] := by
  cases kind <;> cases atStart <;> rfl

variable {symbol : Symbol}

theorem continuation_cons (h : symbol ≠ .stop) (atStart : Bool) (rest : List Symbol) :
    continuation atStart (symbol :: rest) =
      (if isSpaced symbol then [' '] else []) ++
        ((rendered atStart symbol).toList ++ continuation symbol.endsSentence rest) := by
  cases symbol <;> first | rfl | exact absurd rfl h

/-- Whatever was before, a sentence begins behind a symbol just if the symbol ends one. -/
theorem put_eq (written : String) (atStart : Bool) (symbol : Symbol) :
    put written atStart symbol =
      ((if isSpaced symbol && !written.isEmpty then written.push ' ' else written) ++ rendered atStart symbol,
        symbol.endsSentence) := by
  cases symbol with
  | address text => rfl
  | mark kind =>
    cases atStart <;> cases hends : kind.endsSentence <;> simp [put, rendered, Symbol.endsSentence, hends]
  | _ => cases atStart <;> simp [put, rendered, Symbol.endsSentence]

theorem onto_cons (h : symbol ≠ .stop) (written : String) (atStart : Bool) (rest : List Symbol) :
    onto written atStart (symbol :: rest) =
      onto ((if isSpaced symbol && !written.isEmpty then written.push ' ' else written) ++
        rendered atStart symbol) symbol.endsSentence rest := by
  have hput : onto written atStart (symbol :: rest) =
      onto (put written atStart symbol).1 (put written atStart symbol).2 rest := by
    cases symbol <;> first | rfl | exact absurd rfl h
  rw [hput, put_eq]

theorem toList_onto {written : String} (h : written ≠ "") (atStart : Bool) (symbols : List Symbol) :
    (onto written atStart symbols).toList = written.toList ++ continuation atStart symbols := by
  induction symbols generalizing written atStart with
  | nil => simp [onto, continuation]
  | cons symbol rest ih =>
    by_cases hstop : symbol = .stop
    · subst hstop
      simp [onto, continuation]
    · have hspaced : (if isSpaced symbol && !written.isEmpty then written.push ' ' else written).toList =
          written.toList ++ (if isSpaced symbol then [' '] else []) := by
        cases isSpaced symbol <;> simp [h]
      have hsome : (if isSpaced symbol && !written.isEmpty then written.push ' ' else written) ++
          rendered atStart symbol ≠ "" := by
        intro hnone
        have hchars := congrArg String.toList hnone
        rw [String.toList_append, hspaced] at hchars
        simp [h] at hchars
      rw [onto_cons hstop, ih hsome, String.toList_append, hspaced, continuation_cons hstop]
      simp only [List.append_assoc]

/-- A text begins with its first symbol, and goes on from there. -/
theorem toList_textOf (hstop : symbol ≠ .stop) (hsome : rendered true symbol ≠ "") (rest : List Symbol) :
    (textOf (symbol :: rest)).toList =
      (rendered true symbol).toList ++ continuation symbol.endsSentence rest := by
  rw [textOf, onto_cons hstop]
  simp [toList_onto, hsome]

end Writing

end Banter
