import Banter.Json.Number

/-!
# How numbers are spelled

A number is spelled by its digits before the point, without needless zeros, and may have a fraction and an
exponent. Main statement: such a number is read to its end, before anything that could not go on with it.
-/

namespace Banter.Json

def IsDigits (chars : List Char) : Prop :=
  chars ≠ [] ∧ ∀ c ∈ chars, '0' ≤ c ∧ c ≤ '9'

/-- The digits of a number before its point. -/
def IsWhole (chars : List Char) : Prop :=
  chars = ['0'] ∨ IsDigits chars ∧ chars.head? ≠ some '0'

def IsFraction (chars : List Char) : Prop :=
  chars = [] ∨ ∃ digits, IsDigits digits ∧ chars = '.' :: digits

def IsExponent (chars : List Char) : Prop :=
  chars = [] ∨ ∃ letter ∈ ['e', 'E'], ∃ sign ∈ [[], ['+'], ['-']], ∃ digits, IsDigits digits ∧
    chars = letter :: (sign ++ digits)

/-- A number without a sign. -/
def IsNumeral (chars : List Char) : Prop :=
  ∃ whole fraction exponent, IsWhole whole ∧ IsFraction fraction ∧ IsExponent exponent ∧
    chars = whole ++ (fraction ++ exponent)

def EndsDigits (rest : List Char) : Prop :=
  ∀ c ∈ rest.head?, isDigit c = false

/-- Whether no number goes on at the front. -/
def EndsNumber (rest : List Char) : Prop :=
  ∀ c ∈ rest.head?, isDigit c = false ∧ c ≠ '.' ∧ c ≠ 'e' ∧ c ≠ 'E'

theorem EndsNumber.endsDigits {rest : List Char} (h : EndsNumber rest) : EndsDigits rest :=
  fun c hc => (h c hc).1

theorem isDigit_iff {c : Char} : isDigit c = true ↔ '0' ≤ c ∧ c ≤ '9' := by
  unfold isDigit digit?
  split <;> simp_all

theorem IsDigits.exists_cons {digits : List Char} (h : IsDigits digits) : ∃ c more,
    digits = c :: more ∧ isDigit c = true ∧ ∀ d ∈ more, isDigit d = true := by
  obtain ⟨c, more, rfl⟩ := List.ne_nil_iff_exists_cons.mp h.1
  obtain ⟨hfirst, hmore⟩ := List.forall_mem_cons.mp h.2
  exact ⟨c, more, rfl, isDigit_iff.mpr hfirst, fun d hd => isDigit_iff.mpr (hmore d hd)⟩

theorem IsNumeral.exists_cons {chars : List Char} (h : IsNumeral chars) :
    ∃ c more, chars = c :: more ∧ isDigit c = true := by
  obtain ⟨whole, fraction, exponent, hwhole, _, _, rfl⟩ := h
  rcases hwhole with rfl | ⟨hdigits, _⟩
  · exact ⟨'0', fraction ++ exponent, rfl, by decide⟩
  · obtain ⟨c, more, rfl, hfirst, _⟩ := hdigits.exists_cons
    exact ⟨c, more ++ (fraction ++ exponent), rfl, hfirst⟩

theorem afterDigits_append {digits rest : List Char} (h : ∀ c ∈ digits, isDigit c = true)
    (hrest : EndsDigits rest) : afterDigits (digits ++ rest) = rest := by
  rw [afterDigits, List.dropWhile_append_of_pos h]
  cases rest with
  | nil => rfl
  | cons c rest => exact List.dropWhile_cons_of_neg (by simp [hrest c rfl])

theorem readDigits_append {digits rest : List Char} (h : IsDigits digits) (hrest : EndsDigits rest)
    (early : JsonTrouble) : ∃ values, readDigits early (digits ++ rest) = .ok (values, rest) := by
  obtain ⟨c, more, rfl, hfirst, hmore⟩ := h.exists_cons
  rw [List.cons_append, readDigits, if_pos hfirst, afterDigits_append hmore hrest]
  exact ⟨_, rfl⟩

theorem readWhole_append {whole rest : List Char} (h : IsWhole whole) (hrest : EndsDigits rest)
    (early : JsonTrouble) : ∃ values, readWhole early (whole ++ rest) = .ok (values, rest) := by
  rcases h with rfl | ⟨hdigits, hhead⟩
  · have hends : rest.head?.any isDigit = false := by
      cases rest with
      | nil => rfl
      | cons c rest => exact hrest c rfl
    rw [List.singleton_append, readWhole, if_pos rfl, hends]
    exact ⟨_, rfl⟩
  · obtain ⟨c, more, rfl, _, _⟩ := hdigits.exists_cons
    have hzero : c ≠ '0' := by simpa using hhead
    rw [List.cons_append, readWhole, if_neg hzero, ← List.cons_append]
    exact readDigits_append hdigits hrest early

theorem readFraction_append {fraction rest : List Char} (h : IsFraction fraction) (hrest : EndsDigits rest)
    (hpoint : rest.head? ≠ some '.') (early : JsonTrouble) :
    ∃ values, readFraction early (fraction ++ rest) = .ok (values, rest) := by
  rcases h with rfl | ⟨digits, hdigits, rfl⟩
  · cases rest with
    | nil => exact ⟨_, rfl⟩
    | cons c rest =>
      have hc : c ≠ '.' := by simpa using hpoint
      rw [List.nil_append, readFraction, if_neg hc]
      exact ⟨_, rfl⟩
  · rw [List.cons_append, readFraction, if_pos rfl]
    exact readDigits_append hdigits hrest early

theorem readSign_append {sign digits : List Char} (h : sign ∈ [[], ['+'], ['-']]) (hdigits : IsDigits digits)
    (rest : List Char) : (readSign (sign ++ digits ++ rest)).2 = digits ++ rest := by
  have hnone : (readSign (digits ++ rest)).2 = digits ++ rest := by
    obtain ⟨c, more, rfl, hfirst, _⟩ := hdigits.exists_cons
    have hminus : c ≠ '-' := by rintro rfl; exact absurd hfirst (by decide)
    have hplus : c ≠ '+' := by rintro rfl; exact absurd hfirst (by decide)
    rw [List.cons_append, readSign, if_neg hminus, if_neg hplus]
  simp only [List.mem_cons, List.not_mem_nil, or_false] at h
  rcases h with rfl | rfl | rfl
  · exact hnone
  · rfl
  · rfl

theorem readExponent_append {exponent rest : List Char} (h : IsExponent exponent) (hrest : EndsNumber rest)
    (early : JsonTrouble) : ∃ values, readExponent early (exponent ++ rest) = .ok (values, rest) := by
  rcases h with rfl | ⟨letter, hletter, sign, hsign, digits, hdigits, rfl⟩
  · cases rest with
    | nil => exact ⟨_, rfl⟩
    | cons c rest =>
      obtain ⟨_, _, hlower, hupper⟩ := hrest c rfl
      rw [List.nil_append, readExponent, if_neg (not_or.mpr ⟨hlower, hupper⟩)]
      exact ⟨_, rfl⟩
  · have hexponent : letter = 'e' ∨ letter = 'E' := by simpa using hletter
    obtain ⟨values, hvalues⟩ := readDigits_append hdigits hrest.endsDigits early
    rw [List.cons_append, readExponent, if_pos hexponent, readSign_append hsign hdigits, hvalues]
    exact ⟨_, rfl⟩

/-- What comes after the point of a number does not go on with the digits before it. -/
theorem IsExponent.ends {exponent rest : List Char} (h : IsExponent exponent) (hrest : EndsNumber rest) :
    EndsDigits (exponent ++ rest) ∧ (exponent ++ rest).head? ≠ some '.' := by
  rcases h with rfl | ⟨letter, hletter, _, _, _, _, rfl⟩
  · refine ⟨hrest.endsDigits, ?_⟩
    intro hpoint
    exact (hrest '.' hpoint).2.1 rfl
  · have hexponent : letter = 'e' ∨ letter = 'E' := by simpa using hletter
    have hletters : isDigit 'e' = false ∧ isDigit 'E' = false := by decide
    rcases hexponent with rfl | rfl <;> simp [EndsDigits, hletters]

theorem IsFraction.ends {fraction rest : List Char} (h : IsFraction fraction) (hrest : EndsDigits rest) :
    EndsDigits (fraction ++ rest) := by
  rcases h with rfl | ⟨_, _, rfl⟩
  · exact hrest
  · have hpoint : isDigit '.' = false := by decide
    simp [EndsDigits, hpoint]

/-- A number is read to its end. -/
theorem readNumeral_append {chars rest : List Char} (h : IsNumeral chars) (hrest : EndsNumber rest)
    (early : JsonTrouble) : ∃ numeral, readNumeral early (chars ++ rest) = .ok (numeral, rest) := by
  obtain ⟨whole, fraction, exponent, hwhole, hfraction, hexponent, rfl⟩ := h
  obtain ⟨hdigits, hpoint⟩ := hexponent.ends hrest
  obtain ⟨values, hvalues⟩ := readWhole_append hwhole (hfraction.ends hdigits) early
  obtain ⟨parts, hparts⟩ := readFraction_append hfraction hdigits hpoint early
  obtain ⟨power, hpower⟩ := readExponent_append hexponent hrest early
  rw [List.append_assoc, List.append_assoc, readNumeral, hvalues]
  refine ⟨⟨values, parts, power.1, power.2⟩, ?_⟩
  simp only [bind, Except.bind, hparts, hpower]
  rfl

end Banter.Json
