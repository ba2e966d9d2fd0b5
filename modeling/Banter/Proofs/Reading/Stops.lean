import Banter.Proofs.Reading.Simulation

namespace Banter

namespace Scanning

private theorem afterRun_cases (run rest : List Char) :
    ∃ symbol next, afterRun run rest = (symbol, ongoing next) ∧ symbol ≠ .stop := by
  unfold afterRun
  split
  · split
    · exact ⟨_, _, rfl, by simp⟩
    · exact ⟨_, _, rfl, by simp⟩
  · exact ⟨_, _, rfl, by simp⟩

/-- Reading gives the stop and ends, or gives another symbol and goes on. -/
theorem scan_cases (rest : List Char) :
    scan rest = (.stop, ended) ∨ ∃ symbol next, scan rest = (symbol, ongoing next) ∧ symbol ≠ .stop := by
  induction rest with
  | nil => exact Or.inl rfl
  | cons c rest ih =>
    rw [scan]
    split
    · exact Or.inr (afterRun_cases _ _)
    · split
      next mark _ => exact Or.inr ⟨.mark mark, rest, rfl, by simp⟩
      next => exact ih

theorem symbols_ongoing_nil : (ongoing []).symbols = [.stop] := by
  rw [symbols_ongoing, scan, symbols_ended]

theorem symbols_ongoing_eq (rest : List Char) :
    ∃ front, (ongoing rest).symbols = front ++ [.stop] ∧ .stop ∉ front := by
  induction hn : rest.length using Nat.strongRecOn generalizing rest with
  | ind n ih =>
    rw [symbols_ongoing]
    have hmeasure := measure_scan_le rest
    rcases scan_cases rest with h | ⟨symbol, next, h, hsymbol⟩
    · refine ⟨[], ?_, by simp⟩
      rw [h, symbols_ended]
      rfl
    · rw [h] at hmeasure ⊢
      simp only [measure] at hmeasure
      obtain ⟨front, hfront, hnot⟩ := ih next.length (by omega) next rfl
      refine ⟨symbol :: front, by rw [hfront]; rfl, ?_⟩
      rw [List.mem_cons, not_or]
      exact ⟨Ne.symm hsymbol, hnot⟩

end Scanning

/-- A text with characters is read from its first character on. -/
theorem symbolsOf_eq_symbols {text : String} (h : text ≠ "") :
    symbolsOf text = (Scanning.ongoing text.toList).symbols := by
  rw [symbolsOf_eq_scanning, Scanning.start, if_neg h]

theorem symbolsOf_ne_nil {text : String} (h : text ≠ "") : symbolsOf text ≠ [] := by
  rw [symbolsOf_eq_symbols h, Scanning.symbols_ongoing]
  exact List.cons_ne_nil _ _

/-- The only stop of a text is its last symbol. -/
theorem symbolsOf_cases (text : String) :
    symbolsOf text = [] ∨ ∃ front, symbolsOf text = front ++ [.stop] ∧ .stop ∉ front := by
  rw [symbolsOf_eq_scanning, Scanning.start]
  split
  · exact Or.inl Scanning.symbols_ended
  · exact Or.inr (Scanning.symbols_ongoing_eq _)

/-- A text with characters ends in the stop. -/
theorem stop_mem_symbolsOf {text : String} (h : text ≠ "") : .stop ∈ symbolsOf text := by
  rcases symbolsOf_cases text with hnone | ⟨front, hfront, _⟩
  · exact absurd hnone (symbolsOf_ne_nil h)
  · rw [hfront]
    exact List.mem_append_right front List.mem_cons_self

theorem symbolsOf_eq_nil_iff {text : String} : symbolsOf text = [] ↔ text = "" := by
  constructor
  · intro hnone
    by_cases htext : text = ""
    · exact htext
    · have hstop := stop_mem_symbolsOf htext
      rw [hnone] at hstop
      exact absurd hstop List.not_mem_nil
  · rintro rfl
    rw [symbolsOf_eq_scanning, Scanning.start, if_pos rfl, Scanning.symbols_ended]

/-- Nothing comes after the stop of a text. -/
theorem eq_nil_of_symbolsOf {text : String} {front back : List Symbol}
    (h : symbolsOf text = front ++ .stop :: back) : back = [] := by
  rcases symbolsOf_cases text with hnone | ⟨before, hbefore, hnot⟩
  · rw [hnone] at h
    exact absurd h (by simp)
  · by_cases hback : back = []
    · exact hback
    · rw [hbefore, ← List.dropLast_concat_getLast hback, ← List.cons_append, ← List.append_assoc] at h
      have hsplit := List.append_inj_left' h rfl
      rw [hsplit] at hnot
      exact absurd (List.mem_append_right front List.mem_cons_self) hnot

end Banter
