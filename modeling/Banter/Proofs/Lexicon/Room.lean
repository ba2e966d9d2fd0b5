import Banter.Proofs.Lexicon.Entering

/-!
# Room in a lexicon

Entering symbols takes one number for each symbol that is missing, however often it appears. If there are too
few numbers, the missing symbols that come first get them.
-/

namespace Banter.Lexicon

/-- The symbols of a list that a lexicon does not have, in the order in which they first appear. -/
def missing (lexicon : Lexicon) (symbols : List Symbol) : List Symbol :=
  (symbols.filter (· ∉ lexicon.symbols.toList)).eraseDups

theorem mem_of_mem_missing {lexicon : Lexicon} {symbols : List Symbol} {symbol : Symbol}
    (h : symbol ∈ lexicon.missing symbols) : symbol ∈ symbols := by
  rw [missing, List.mem_eraseDups] at h
  exact (List.mem_filter.mp h).1

theorem missing_cons_of_mem {lexicon : Lexicon} {symbol : Symbol} (h : symbol ∈ lexicon.symbols.toList)
    (symbols : List Symbol) : lexicon.missing (symbol :: symbols) = lexicon.missing symbols := by
  rw [missing, List.filter_cons_of_neg (by simpa using h), missing]

theorem missing_cons_of_not_mem {lexicon grown : Lexicon} {symbol : Symbol}
    (h : symbol ∉ lexicon.symbols.toList)
    (hgrown : grown.symbols.toList = lexicon.symbols.toList ++ [symbol]) (symbols : List Symbol) :
    lexicon.missing (symbol :: symbols) = symbol :: grown.missing symbols := by
  rw [missing, List.filter_cons_of_pos (by simpa using h), List.eraseDups_cons, List.filter_filter, missing,
    hgrown]
  congr 3
  funext other
  by_cases hsame : other = symbol <;> simp [hsame]

theorem missing_append_of_mem {lexicon : Lexicon} {front : List Symbol}
    (h : ∀ symbol ∈ front, symbol ∈ lexicon.symbols.toList) (back : List Symbol) :
    lexicon.missing (front ++ back) = lexicon.missing back := by
  induction front with
  | nil => rfl
  | cons symbol front ih =>
    obtain ⟨hfirst, hrest⟩ := List.forall_mem_cons.mp h
    rw [List.cons_append, missing_cons_of_mem hfirst, ih hrest]

private theorem eraseDups_eq_self {symbols : List Symbol} (h : symbols.Nodup) :
    symbols.eraseDups = symbols := by
  induction symbols with
  | nil => rfl
  | cons symbol symbols ih =>
    obtain ⟨hfirst, hrest⟩ := List.nodup_cons.mp h
    have hfilter : symbols.filter (fun other => !other == symbol) = symbols := by
      rw [List.filter_eq_self]
      intro other hother
      have hne : other ≠ symbol := fun hsame => hfirst (hsame ▸ hother)
      simpa using hne
    rw [List.eraseDups_cons, hfilter, ih hrest]

theorem missing_eq_self {lexicon : Lexicon} {symbols : List Symbol} (hnodup : symbols.Nodup)
    (hnew : ∀ symbol ∈ symbols, symbol ∉ lexicon.symbols.toList) : lexicon.missing symbols = symbols := by
  have hfilter : symbols.filter (· ∉ lexicon.symbols.toList) = symbols := by
    simpa [List.filter_eq_self] using hnew
  rw [missing, hfilter, eraseDups_eq_self hnodup]

/-- What entering symbols can do: add all that are missing, or as many of them as there is room for. -/
theorem enterOnto_cases (ids : Array SymbolId) (lexicon : Lexicon) (symbols : List Symbol) : ∃ newer,
    ((lexicon.missing symbols).length ≤ capacity - lexicon.size ∧
      (∃ found, lexicon.enterOnto ids symbols = (.ok found, newer)) ∧
      newer.symbols.toList = lexicon.symbols.toList ++ lexicon.missing symbols) ∨
    (capacity - lexicon.size < (lexicon.missing symbols).length ∧
      lexicon.enterOnto ids symbols = (.error (.full capacity), newer) ∧
      newer.symbols.toList =
        lexicon.symbols.toList ++ (lexicon.missing symbols).take (capacity - lexicon.size)) := by
  induction symbols generalizing ids lexicon with
  | nil => exact ⟨lexicon, Or.inl ⟨Nat.zero_le _, ⟨ids, rfl⟩, (List.append_nil _).symm⟩⟩
  | cons symbol symbols ih =>
    rw [enterOnto]
    rcases lexicon.enter_cases symbol with ⟨id, hid, h⟩ | ⟨hnone, room, grown, h, hgrown⟩ | ⟨hnone, hfull, h⟩
    · rw [h, missing_cons_of_mem (mem_of_id? hid)]
      exact ih (ids.push id) lexicon
    · have hsize : capacity - lexicon.size = capacity - grown.size + 1 := by
        rw [size_eq_length grown, hgrown, List.length_append, ← size_eq_length, List.length_singleton]
        omega
      rw [h, missing_cons_of_not_mem (id?_eq_none_iff.mp hnone) hgrown, hsize, List.take_succ_cons,
        List.length_cons]
      obtain ⟨newer, ⟨hlength, hfound, hnewer⟩ | ⟨hlength, hfault, hnewer⟩⟩ :=
        ih (ids.push lexicon.next) grown
      · refine ⟨newer, Or.inl ⟨Nat.succ_le_succ hlength, hfound, ?_⟩⟩
        rw [hnewer, hgrown, List.append_assoc, List.singleton_append]
      · refine ⟨newer, Or.inr ⟨Nat.succ_lt_succ hlength, hfault, ?_⟩⟩
        rw [hnewer, hgrown, List.append_assoc, List.singleton_append]
    · refine ⟨lexicon, Or.inr ⟨?_, by rw [h], ?_⟩⟩
      · have hsome : symbol ∈ lexicon.missing (symbol :: symbols) := by
          simpa [missing] using id?_eq_none_iff.mp hnone
        rw [hfull, Nat.sub_self]
        exact List.length_pos_of_mem hsome
      · rw [hfull, Nat.sub_self, List.take_zero, List.append_nil]

end Banter.Lexicon
