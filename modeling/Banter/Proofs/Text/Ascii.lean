import Banter.Symbol
import Banter.Text.Blank
import Banter.Text.Casing

namespace Banter.Text

/-- Whether a character is one of ASCII. -/
def IsAscii (c : Char) : Prop :=
  c.toNat < 128

/-- What holds of the first 128 code points holds of all characters of ASCII. -/
theorem IsAscii.forall {p : Char → Prop} (h : ∀ n < 128, p (Char.ofNat n)) {c : Char} (hc : IsAscii c) :
    p c := by
  rw [← Char.ofNat_toNat c]
  exact h c.toNat hc

variable {c : Char} {chars : List Char}

theorem IsAscii.toLower (hc : IsAscii c) : IsAscii c.toLower :=
  hc.forall (p := fun c => c.toLower.toNat < 128) (by decide)

theorem IsAscii.toUpper (hc : IsAscii c) : IsAscii c.toUpper :=
  hc.forall (p := fun c => c.toUpper.toNat < 128) (by decide)

theorem toUpper_toLower (hc : IsAscii c) : c.toLower.toUpper = c.toUpper :=
  hc.forall (p := fun c => c.toLower.toUpper = c.toUpper) (by decide)

theorem toUpper_toUpper (hc : IsAscii c) : c.toUpper.toUpper = c.toUpper :=
  hc.forall (p := fun c => c.toUpper.toUpper = c.toUpper) (by decide)

theorem isWordChar_toLower (hc : IsAscii c) : Symbol.isWordChar c.toLower = Symbol.isWordChar c :=
  hc.forall (p := fun c => Symbol.isWordChar c.toLower = Symbol.isWordChar c) (by decide)

theorem isWordChar_toUpper (hc : IsAscii c) : Symbol.isWordChar c.toUpper = Symbol.isWordChar c :=
  hc.forall (p := fun c => Symbol.isWordChar c.toUpper = Symbol.isWordChar c) (by decide)

theorem upperChar_of_ascii (hc : IsAscii c) : upperChar c = [c.toUpper] :=
  if_pos hc

theorem lowerBetween_of_ascii (hc : IsAscii c) (before after : List Char) :
    lowerBetween before c after = [c.toLower] := by
  have hsigma : c ≠ 'Σ' := by
    intro hsigma
    rw [hsigma] at hc
    exact absurd hc (show ¬ 'Σ'.toNat < 128 by decide)
  rw [lowerBetween, if_neg hsigma]
  exact if_pos hc

theorem upperChars_of_ascii (h : ∀ c ∈ chars, IsAscii c) : upperChars chars = chars.map Char.toUpper := by
  induction chars with
  | nil => rfl
  | cons c rest ih =>
    obtain ⟨hc, hrest⟩ := List.forall_mem_cons.mp h
    rw [upperChars, List.flatMap_cons, upperChar_of_ascii hc, ← upperChars, ih hrest]
    rfl

private theorem lowerOnto_of_ascii (h : ∀ c ∈ chars, IsAscii c) (before : List Char) :
    lowerOnto [] before chars = chars.map Char.toLower := by
  induction chars generalizing before with
  | nil => rfl
  | cons c rest ih =>
    obtain ⟨hc, hrest⟩ := List.forall_mem_cons.mp h
    rw [lowerOnto, lowerOnto_eq_append, lowerBetween_of_ascii hc, ih hrest]
    rfl

theorem lowerChars_of_ascii (h : ∀ c ∈ chars, IsAscii c) : lowerChars chars = chars.map Char.toLower :=
  lowerOnto_of_ascii h []

theorem toList_lower_of_ascii {text : String} (h : ∀ c ∈ text.toList, IsAscii c) :
    (lower text).toList = text.toList.map Char.toLower := by
  rw [lower, String.toList_ofList, lowerChars_of_ascii h]

theorem toList_capitalize_of_ascii {text : String} {rest : List Char} (htext : text.toList = c :: rest)
    (hc : IsAscii c) : (capitalize text).toList = c.toUpper :: rest := by
  rw [capitalize, htext]
  simp only [String.toList_ofList, upperChar_of_ascii hc, List.singleton_append]

end Banter.Text
