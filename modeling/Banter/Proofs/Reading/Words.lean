import Banter.Proofs.Reading.Pieces
import Mathlib.Data.List.Nodup

namespace Banter

namespace Scanning

/-- A run of word characters that nothing prolongs is a word. -/
theorem scan_word {run rest : List Char} (hsome : run ≠ []) (hrun : ∀ c ∈ run, Symbol.isWordChar c = true)
    (hrest : ∀ c ∈ rest.head?, Symbol.isWordChar c = false ∧ c ≠ ':') :
    scan (run ++ rest) = (.word (String.ofList (Text.upperChars run)), ongoing rest) := by
  have hplain : ¬(isScheme run = true ∧ rest.head? = some ':') := fun h => (hrest ':' h.2).2 rfl
  rw [scan_run hsome hrun fun c hc => (hrest c hc).1, afterRun_word hplain]

theorem symbols_intercalate {words : List (List Char)}
    (hwords : ∀ word ∈ words, word ≠ [] ∧ ∀ c ∈ word, Symbol.isWordChar c = true) :
    (ongoing ([' '].intercalate words)).symbols =
      words.map (fun word => .word (String.ofList (Text.upperChars word))) ++ [.stop] := by
  induction words with
  | nil =>
    rw [List.intercalate_nil, symbols_ongoing_nil]
    rfl
  | cons word words ih =>
    obtain ⟨⟨hsome, hword⟩, hmore⟩ := List.forall_mem_cons.mp hwords
    rw [List.map_cons, List.cons_append, ← ih hmore, symbols_ongoing]
    cases words with
    | nil =>
      rw [List.intercalate_singleton, ← List.append_nil word, scan_word hsome hword (by simp), List.append_nil]
      rfl
    | cons next words =>
      have hblank : ∀ c ∈ (' ' :: [' '].intercalate (next :: words)).head?,
          Symbol.isWordChar c = false ∧ c ≠ ':' := by
        intro c hc
        obtain rfl := Option.some.inj hc
        decide
      rw [List.intercalate_cons_cons, List.append_assoc, List.singleton_append, scan_word hsome hword hblank,
        symbols_ongoing, symbols_ongoing]
      rfl

end Scanning

theorem symbolsOf_intercalate {words : List String} (hsome : words ≠ [])
    (hwords : ∀ word ∈ words, word ≠ "" ∧ ∀ c ∈ word.toList, Symbol.isWordChar c = true) :
    symbolsOf (" ".intercalate words) = words.map (fun word => .word (Text.upper word)) ++ [.stop] := by
  have hchars : ∀ word ∈ words.map String.toList, word ≠ [] ∧ ∀ c ∈ word, Symbol.isWordChar c = true := by
    simpa using hwords
  have hsymbols := Scanning.symbols_intercalate hchars
  rw [List.map_map] at hsymbols
  have htext : " ".intercalate words ≠ "" := by
    cases words with
    | nil => exact absurd rfl hsome
    | cons word words =>
      have hword : word ≠ "" := (hwords word List.mem_cons_self).1
      cases words <;> simp [← String.toList_eq_nil_iff, hword]
  rw [symbolsOf_eq_symbols htext, String.toList_intercalate]
  exact hsymbols

def numbered (i : Nat) : String :=
  "w" ++ toString i

def crowd (count : Nat) : String :=
  " ".intercalate ((List.range count).map numbered)

private theorem isWordChar_and_upperChar_of_isDigit {c : Char} (h : c.isDigit = true) :
    Symbol.isWordChar c = true ∧ Text.upperChar c = [c] := by
  have hdigits : ∀ k < 10, Symbol.isWordChar (Char.ofNat (48 + k)) = true ∧
      Text.upperChar (Char.ofNat (48 + k)) = [Char.ofNat (48 + k)] := by
    decide
  have hrange : 48 ≤ c.toNat ∧ c.toNat ≤ 57 := by
    simpa [Char.isDigit, UInt32.le_iff_toNat_le] using h
  have hchar : Char.ofNat (48 + (c.toNat - 48)) = c := by
    rw [Nat.add_sub_cancel' hrange.1, Char.ofNat_toNat]
  rw [← hchar]
  exact hdigits (c.toNat - 48) (by omega)

theorem toList_numbered (i : Nat) : (numbered i).toList = 'w' :: Nat.toDigits 10 i := by
  rw [numbered, String.toList_append, Nat.toString_eq_repr, Nat.toList_repr]
  rfl

theorem numbered_ne_empty (i : Nat) : numbered i ≠ "" := by
  intro hnone
  have hchars := toList_numbered i
  rw [hnone] at hchars
  exact absurd hchars (by simp)

theorem isWord_numbered (i : Nat) :
    numbered i ≠ "" ∧ ∀ c ∈ (numbered i).toList, Symbol.isWordChar c = true := by
  refine ⟨numbered_ne_empty i, ?_⟩
  intro c hc
  rw [toList_numbered, List.mem_cons] at hc
  rcases hc with rfl | hdigit
  · decide
  · exact (isWordChar_and_upperChar_of_isDigit (Nat.isDigit_of_mem_toDigits (by decide) (by decide) hdigit)).1

theorem upper_numbered (i : Nat) : Text.upper (numbered i) = "W" ++ toString i := by
  have hdigits : Text.upperChars (Nat.toDigits 10 i) = Nat.toDigits 10 i := by
    have hsame : ∀ c ∈ Nat.toDigits 10 i, Text.upperChar c = [c] := fun c hc =>
      (isWordChar_and_upperChar_of_isDigit (Nat.isDigit_of_mem_toDigits (by decide) (by decide) hc)).2
    rw [Text.upperChars, List.flatMap_congr hsame, List.flatMap_singleton']
  rw [← String.toList_inj, Text.upper, String.toList_ofList, toList_numbered, String.toList_append,
    Nat.toString_eq_repr, Nat.toList_repr]
  exact congrArg ('W' :: ·) hdigits

def numberedSymbol (i : Nat) : Symbol :=
  .word ("W" ++ toString i)

theorem numberedSymbol_injective : Function.Injective numberedSymbol := by
  intro i j hsame
  have hdigits : Nat.toDigits 10 i = Nat.toDigits 10 j := by
    have hword : "W" ++ toString i = "W" ++ toString j := Symbol.word.inj hsame
    simpa [Nat.toString_eq_repr, ← String.toList_inj, Nat.toList_repr] using hword
  rw [← Nat.ofDigitChars_ten_toDigits (n := i), hdigits, Nat.ofDigitChars_ten_toDigits]

theorem symbolsOf_numbered (i : Nat) : symbolsOf (numbered i) = [numberedSymbol i, .stop] := by
  have hword : ∀ word ∈ [numbered i], word ≠ "" ∧ ∀ c ∈ word.toList, Symbol.isWordChar c = true := by
    simpa using isWord_numbered i
  have hsymbols := symbolsOf_intercalate (List.cons_ne_nil _ _) hword
  rw [String.intercalate_singleton, List.map_singleton, upper_numbered] at hsymbols
  exact hsymbols

def crowdSymbols (count : Nat) : List Symbol :=
  (List.range count).map numberedSymbol

@[simp] theorem length_crowdSymbols (count : Nat) : (crowdSymbols count).length = count := by
  simp [crowdSymbols]

theorem take_crowdSymbols {fewer count : Nat} (h : fewer ≤ count) :
    (crowdSymbols count).take fewer = crowdSymbols fewer := by
  rw [crowdSymbols, ← List.map_take, List.take_range, Nat.min_eq_left h, crowdSymbols]

theorem mem_crowdSymbols {i count : Nat} (h : i < count) : numberedSymbol i ∈ crowdSymbols count :=
  List.mem_map_of_mem (List.mem_range.mpr h)

@[simp] theorem stop_not_mem_crowdSymbols (count : Nat) : .stop ∉ crowdSymbols count := by
  simp [crowdSymbols, numberedSymbol]

theorem symbolsOf_crowd {count : Nat} (h : 0 < count) :
    symbolsOf (crowd count) = crowdSymbols count ++ [.stop] := by
  have hwords : ∀ word ∈ (List.range count).map numbered,
      word ≠ "" ∧ ∀ c ∈ word.toList, Symbol.isWordChar c = true := by
    intro word hword
    obtain ⟨i, _, rfl⟩ := List.mem_map.mp hword
    exact isWord_numbered i
  have hsome : (List.range count).map numbered ≠ [] := by
    simpa using Nat.ne_of_gt h
  rw [crowd, symbolsOf_intercalate hsome hwords, List.map_map]
  simp [upper_numbered, crowdSymbols, numberedSymbol]

theorem nodup_symbolsOf_crowd {count : Nat} (h : 0 < count) : (symbolsOf (crowd count)).Nodup := by
  have hfront : (crowdSymbols count).Nodup := List.nodup_range.map numberedSymbol_injective
  rw [symbolsOf_crowd h, ← List.concat_eq_append]
  exact List.Nodup.concat (stop_not_mem_crowdSymbols count) hfront

end Banter
