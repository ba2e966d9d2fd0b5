import Banter.Symbol
import Banter.Text.Casing

/-!
# Writing a text

Symbols are written as sentences: words are in lower case but for the first letter of a sentence, a
space comes before each word and address but the first, and a mark follows what is before it directly.
Nothing is written from the first stop on.
-/

namespace Banter

namespace Writing

/-- Whether a space separates a symbol from what is already written. -/
def isSpaced : Symbol → Bool
  | .word _ | .address _ => true
  | .mark _ | .stop => false

/-- Adds a symbol to the text already written, and tells whether a sentence begins behind it. -/
def put (written : String) (atStart : Bool) (symbol : Symbol) : String × Bool :=
  let written := if isSpaced symbol && !written.isEmpty then written.push ' ' else written
  match symbol with
  | .address text => (written ++ text, false)
  | symbol =>
    let text := Text.lower symbol.text
    let (written, atStart) :=
      if atStart then (written ++ Text.capitalize text, false) else (written ++ text, atStart)
    (written, if symbol.endsSentence then true else atStart)

/-- Adds symbols to the text already written, at the start of a sentence or within one. -/
def onto (written : String) (atStart : Bool) : List Symbol → String
  | [] => written
  | .stop :: _ => written
  | symbol :: rest =>
    let (written, atStart) := put written atStart symbol
    onto written atStart rest

end Writing

def textOf (symbols : List Symbol) : String :=
  Writing.onto "" true symbols

end Banter
