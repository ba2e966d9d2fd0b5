import Banter.Proofs.Reading.Scanning

/-!
# Reading simulates scanning

Between two symbols the buffer is empty, so that a state of reading stands for what is left to scan: the
characters to come, behind a mark that was kept back or that was dropped because it is none. While a symbol is
being read, what is left is the buffer and then the characters to come.
-/

namespace Banter.Reading

/-- Whether a state of reading stands for what is left to scan. -/
inductive Stands : Reading → Scanning → Prop
  | between (chars : List Char) : Stands ⟨chars, "", none, false⟩ (.ongoing chars)
  | behindMark (mark : Mark) (chars : List Char) :
      Stands ⟨chars, "", some (.mark mark), false⟩ (.ongoing (mark.char :: chars))
  | behindGap {c : Char} (noWord : Symbol.isWordChar c = false) (noMark : Mark.ofChar? c = none)
      (chars : List Char) : Stands ⟨chars, "", none, false⟩ (.ongoing (c :: chars))
  | beforeStop : Stands ⟨[], "", some .stop, true⟩ (.ongoing [])
  | behindStop : Stands ⟨[], "", none, true⟩ .ended

theorem stands_start (text : String) : (start text).Stands (.start text) := by
  by_cases hnone : text = ""
  · rw [hnone]
    exact .behindStop
  · have hsome : text.isEmpty = false := by simpa using hnone
    rw [start, hsome, Scanning.start, if_neg hnone]
    exact .between text.toList

theorem isScheme_eq (buffer : String) : isScheme buffer = Scanning.isScheme buffer.toList := by
  rw [Bool.eq_iff_iff]
  simp [isScheme, Scanning.isScheme, ← String.toList_inj]

theorem takeTail_eq (address : String) (chars : List Char) :
    takeTail address chars = (String.ofList (address.toList ++ chars.takeWhile (!Text.isBlank ·)),
      chars.dropWhile (!Text.isBlank ·)) := by
  fun_induction takeTail address chars with
  | case1 => simp
  | case2 address c rest hblank => simp [hblank]
  | case3 address c rest hplain ih => simp [hplain, ih]

section ReadOn

variable {buffer : String} (hbuffer : ∀ c ∈ buffer.toList, Symbol.isWordChar c = true)

include hbuffer

/-- Where the text ends, what was gathered is a word, and the stop is kept back behind it. -/
private theorem readOn_end : ∃ symbol reading after, readOn buffer [] = (symbol, reading) ∧
    Scanning.scan (buffer.toList ++ []) = (symbol, after) ∧ reading.Stands after := by
  by_cases hnone : buffer = ""
  · subst hnone
    exact ⟨.stop, _, .ended, rfl, rfl, .behindStop⟩
  · have hsome : buffer.toList ≠ [] := by simpa using hnone
    have hword : Scanning.scan (buffer.toList ++ []) = (.word (Text.upper buffer), .ongoing []) := by
      rw [Scanning.scan_run hsome hbuffer (by simp), Scanning.afterRun_word (by simp), Text.upper]
    refine ⟨_, _, _, ?_, hword, .beforeStop⟩
    simp [readOn, takeWord, hnone]

/-- A character that belongs to no word ends what was gathered. It goes with an address, is kept back if it is a
mark, and is dropped otherwise. -/
private theorem readOn_ending (hsome : buffer ≠ "") {c : Char} (hc : Symbol.isWordChar c = false)
    (rest : List Char) : ∃ symbol reading after, readOn buffer (c :: rest) = (symbol, reading) ∧
      Scanning.scan (buffer.toList ++ c :: rest) = (symbol, after) ∧ reading.Stands after := by
  have hchars : buffer.toList ≠ [] := by simpa using hsome
  have hrun : Scanning.scan (buffer.toList ++ c :: rest) = Scanning.afterRun buffer.toList (c :: rest) :=
    Scanning.scan_run hchars hbuffer (by simpa using hc)
  have hread : readOn buffer (c :: rest) =
      if c = ':' ∧ isScheme buffer then takeAddress ⟨rest, buffer, none, false⟩ c
      else takeWord ⟨rest, buffer, (Mark.ofChar? c).map .mark, false⟩ := by
    rw [readOn, if_neg (by simp [hc]), if_pos (by simpa using hsome)]
  rw [hread, hrun]
  split
  next haddress =>
    obtain ⟨rfl, hscheme⟩ := haddress
    rw [isScheme_eq] at hscheme
    rw [takeAddress, takeTail_eq, Scanning.afterRun, if_pos hscheme, String.toList_push, List.append_assoc]
    exact ⟨_, _, _, rfl, rfl, .between _⟩
  next haddress =>
    rw [Scanning.afterRun_word (by simpa [isScheme_eq, and_comm] using haddress), takeWord]
    cases hmark : Mark.ofChar? c with
    | some mark =>
      obtain rfl := Mark.ofChar?_eq_some_iff.mp hmark
      exact ⟨_, _, _, rfl, rfl, .behindMark mark rest⟩
    | none => exact ⟨_, _, _, rfl, rfl, .behindGap hc hmark rest⟩

/-- A symbol is read on from what was gathered just as it is scanned from there, and the states after it stand for
each other again. -/
theorem readOn_stands (chars : List Char) : ∃ symbol reading after, readOn buffer chars = (symbol, reading) ∧
    Scanning.scan (buffer.toList ++ chars) = (symbol, after) ∧ reading.Stands after := by
  -- The buffer grows until a character ends it. Only with an empty one does reading go past such a character.
  induction chars generalizing buffer with
  | nil => exact readOn_end hbuffer
  | cons c rest ih =>
    by_cases hc : Symbol.isWordChar c = true
    · have hpush : ∀ d ∈ (buffer.push c).toList, Symbol.isWordChar d = true := by
        simpa [or_imp, forall_and, hc] using hbuffer
      obtain ⟨symbol, reading, after, hread, hscan, hstands⟩ := ih hpush
      refine ⟨symbol, reading, after, ?_, ?_, hstands⟩
      · rw [readOn, if_pos hc, hread]
      · rw [← hscan, String.toList_push, List.append_assoc, List.singleton_append]
    · have hc := Bool.eq_false_iff.mpr hc
      by_cases hnone : buffer = ""
      · subst hnone
        cases hmark : Mark.ofChar? c with
        | some mark =>
          obtain rfl := Mark.ofChar?_eq_some_iff.mp hmark
          refine ⟨.mark mark, _, .ongoing rest, ?_, Scanning.scan_mark mark rest, .between rest⟩
          simp [readOn, hc]
        | none =>
          obtain ⟨symbol, reading, after, hread, hscan, hstands⟩ := ih hbuffer
          refine ⟨symbol, reading, after, ?_, (Scanning.scan_gap hc hmark rest).trans hscan, hstands⟩
          simpa [readOn, hc, hmark] using hread
      · exact readOn_ending hbuffer hnone hc rest

end ReadOn

/-- Reading gives the symbol that scanning gives, and ends when scanning does. -/
theorem Stands.next? {reading : Reading} {scanning : Scanning} (h : reading.Stands scanning) :
    match scanning.next? with
    | some (symbol, after) => ∃ next, reading.next? = some (symbol, next) ∧ next.Stands after
    | none => reading.next? = none := by
  have hread (chars : List Char) : ∃ next, (⟨chars, "", none, false⟩ : Reading).next? =
      some ((Scanning.scan chars).1, next) ∧ next.Stands (Scanning.scan chars).2 := by
    obtain ⟨symbol, next, after, hread, hscan, hstands⟩ := @readOn_stands "" (by simp) chars
    rw [String.toList_empty, List.nil_append] at hscan
    rw [hscan]
    exact ⟨next, congrArg some hread, hstands⟩
  cases h with
  | between chars => exact hread chars
  | behindMark mark chars =>
    rw [Scanning.next?, Scanning.scan_mark]
    exact ⟨_, rfl, .between chars⟩
  | behindGap noWord noMark chars =>
    rw [Scanning.next?, Scanning.scan_gap noWord noMark]
    exact hread chars
  | beforeStop => exact ⟨_, rfl, .behindStop⟩
  | behindStop => rfl

/-- The state after a symbol is asked for, whether there is one or not. -/
def later (reading : Reading) : Reading :=
  match reading.next? with
  | some (_, after) => after
  | none => reading

/-- What is given when a symbol is asked for after `n` times. -/
def given? (reading : Reading) : (n : Nat) → Option Symbol
  | 0 => reading.next?.map Prod.fst
  | n + 1 => reading.later.given? n

/-- Symbols that are asked for one by one are those of the scan in order, and then none. -/
theorem Stands.given? {reading : Reading} {scanning : Scanning} (h : reading.Stands scanning) (n : Nat) :
    reading.given? n = scanning.symbols[n]? := by
  induction n generalizing reading scanning with
  | zero =>
    have hnext := h.next?
    cases scanning with
    | ended => rw [Reading.given?, show reading.next? = none from hnext, Scanning.symbols_ended]; rfl
    | ongoing rest =>
      obtain ⟨next, hnext, _⟩ := hnext
      rw [Reading.given?, hnext, Scanning.symbols_ongoing]
      rfl
  | succ n ih =>
    have hnext := h.next?
    cases scanning with
    | ended =>
      rw [Reading.given?, later, show reading.next? = none from hnext]
      dsimp only
      rw [ih h, Scanning.symbols_ended]
      rfl
    | ongoing rest =>
      obtain ⟨next, hnext, hstands⟩ := hnext
      rw [Reading.given?, later, hnext, Scanning.symbols_ongoing]
      exact ih hstands

/-- All symbols are gathered until there is none. -/
theorem Stands.symbolsOnto {reading : Reading} {scanning : Scanning} (h : reading.Stands scanning)
    (given : List Symbol) : reading.symbolsOnto given = given.reverse ++ scanning.symbols := by
  induction hn : scanning.measure using Nat.strongRecOn generalizing reading scanning given with
  | ind n ih =>
    have hnext := h.next?
    rw [Reading.symbolsOnto]
    cases scanning with
    | ended =>
      split
      next hsome => exact absurd (hsome.symm.trans hnext) (by simp)
      next => rw [Scanning.symbols_ended, List.append_nil]
    | ongoing rest =>
      obtain ⟨next, hnext, hstands⟩ := hnext
      have hsmall : (Scanning.scan rest).2.measure < n := hn ▸ Nat.lt_succ_of_le (Scanning.measure_scan_le rest)
      split
      next hsome =>
        obtain ⟨rfl, rfl⟩ := Prod.mk.inj (Option.some.inj (hsome.symm.trans hnext))
        rw [ih _ hsmall hstands _ rfl, Scanning.symbols_ongoing, List.reverse_cons, List.append_assoc]
        rfl
      next hnone => exact absurd (hnone.symm.trans hnext) (by simp)

end Banter.Reading

namespace Banter

theorem symbolsOf_eq_scanning (text : String) : symbolsOf text = (Scanning.start text).symbols := by
  rw [symbolsOf, (Reading.stands_start text).symbolsOnto, List.reverse_nil, List.nil_append]

end Banter
