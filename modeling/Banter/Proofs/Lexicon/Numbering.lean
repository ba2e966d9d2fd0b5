import Mathlib.Data.List.Induction
import Mathlib.Data.List.Nodup
import Banter.Proofs.Lexicon.Room

/-!
# One number for each symbol

Symbols are entered into an empty lexicon one after another, past those that find no number. Whatever they are,
the lexicon gives its numbers to the symbols that found one, in the order in which they first did, and goes on
to do so. A list makes a lexicon unless a symbol is repeated or there are too many of them, whichever comes
first.
-/

namespace Banter.Lexicon

/-- The lexicon after symbols are entered one after another, past those that find no number. -/
def entered (lexicon : Lexicon) (symbols : List Symbol) : Lexicon :=
  symbols.foldl (fun lexicon symbol => (lexicon.enter symbol).2) lexicon

/-- The numbers that are given as symbols are entered one after another, each with its symbol. -/
def granted (lexicon : Lexicon) : List Symbol → List (Symbol × SymbolId)
  | [] => []
  | symbol :: rest =>
    match lexicon.enter symbol with
    | (.ok id, lexicon) => (symbol, id) :: lexicon.granted rest
    | (.error _, lexicon) => lexicon.granted rest

theorem toList_empty : empty.symbols.toList = [] := rfl

theorem missing_empty (symbols : List Symbol) : empty.missing symbols = symbols.eraseDups := by
  have hall : symbols.filter (· ∉ empty.symbols.toList) = symbols := by
    simp [toList_empty]
  rw [missing, hall]

theorem entered_cons (lexicon : Lexicon) (symbol : Symbol) (rest : List Symbol) :
    lexicon.entered (symbol :: rest) = (lexicon.enter symbol).2.entered rest := rfl

theorem entered_append (lexicon : Lexicon) (front back : List Symbol) :
    lexicon.entered (front ++ back) = (lexicon.entered front).entered back :=
  List.foldl_append

theorem growsTo_entered (lexicon : Lexicon) (symbols : List Symbol) :
    lexicon.GrowsTo (lexicon.entered symbols) := by
  induction symbols generalizing lexicon with
  | nil => exact GrowsTo.refl lexicon
  | cons symbol rest ih => exact (lexicon.growsTo_enter symbol).trans (ih _)

/-- Entering symbols adds those that are missing, as many as there is room for. -/
theorem toList_entered (lexicon : Lexicon) (symbols : List Symbol) :
    (lexicon.entered symbols).symbols.toList =
      lexicon.symbols.toList ++ (lexicon.missing symbols).take (capacity - lexicon.size) := by
  induction symbols generalizing lexicon with
  | nil => simp [entered, missing]
  | cons symbol rest ih =>
    rw [entered_cons, ih]
    rcases lexicon.enter_cases symbol with ⟨id, hid, h⟩ | ⟨hnone, room, grown, h, hgrown⟩ | ⟨hnone, hfull, h⟩
    · rw [h, missing_cons_of_mem (mem_of_id? hid)]
    · have hsize : capacity - lexicon.size = capacity - grown.size + 1 := by
        rw [size_eq_length grown, hgrown, List.length_append, ← size_eq_length, List.length_singleton]
        omega
      rw [h, missing_cons_of_not_mem (id?_eq_none_iff.mp hnone) hgrown, hsize, List.take_succ_cons, hgrown,
        List.append_assoc, List.singleton_append]
    · rw [h, hfull, Nat.sub_self, List.take_zero, List.take_zero]

/-- The symbols that are added stand in the order in which they first found a number. -/
theorem toList_entered_eq_granted (lexicon : Lexicon) (symbols : List Symbol) :
    (lexicon.entered symbols).symbols.toList =
      lexicon.symbols.toList ++ lexicon.missing ((lexicon.granted symbols).map Prod.fst) := by
  induction symbols generalizing lexicon with
  | nil => simp [entered, granted, missing]
  | cons symbol rest ih =>
    rw [entered_cons, ih, granted]
    rcases lexicon.enter_cases symbol with ⟨id, hid, h⟩ | ⟨hnone, _, grown, h, hgrown⟩ | ⟨_, _, h⟩
    · rw [h, List.map_cons, missing_cons_of_mem (mem_of_id? hid)]
    · rw [h, List.map_cons, missing_cons_of_not_mem (id?_eq_none_iff.mp hnone) hgrown, hgrown,
        List.append_assoc, List.singleton_append]
    · rw [h]

theorem mem_granted_cons {lexicon : Lexicon} {first symbol : Symbol} {rest : List Symbol} {id : SymbolId} :
    (symbol, id) ∈ lexicon.granted (first :: rest) ↔
      (symbol = first ∧ (lexicon.enter first).1 = .ok id) ∨
        (symbol, id) ∈ (lexicon.enter first).2.granted rest := by
  rw [granted]
  split
  next number newer h => simp [h, eq_comm]
  next fault newer h => simp [h]

/-- Entering a symbol gives it a number, if any is given, and leaves the others as they are. -/
theorem symbol?_enter_iff {lexicon : Lexicon} {first symbol : Symbol} {id : SymbolId} :
    (lexicon.enter first).2.symbol? id = some symbol ↔
      lexicon.symbol? id = some symbol ∨ (symbol = first ∧ (lexicon.enter first).1 = .ok id) := by
  constructor
  · intro hsymbol
    rcases lexicon.enter_cases first with ⟨_, _, h⟩ | ⟨_, room, newer, h, hnewer⟩ | ⟨_, _, h⟩
    · rw [h] at hsymbol
      exact Or.inl hsymbol
    · rw [h, symbol?_eq_getElem?, hnewer] at hsymbol
      by_cases hold : id.toNat < lexicon.size
      · rw [List.getElem?_append_left (by rwa [← size_eq_length]), ← symbol?_eq_getElem?] at hsymbol
        exact Or.inl hsymbol
      · have hlast := (List.getElem?_eq_some_iff.mp hsymbol).1
        rw [List.length_append, ← size_eq_length, List.length_singleton] at hlast
        have hid : id.toNat = lexicon.size := by omega
        rw [hid, size_eq_length, List.getElem?_concat_length, Option.some.injEq] at hsymbol
        have hnext : lexicon.next = id := UInt16.toNat_inj.mp ((toNat_next room).trans hid.symm)
        exact Or.inr ⟨hsymbol.symm, by rw [h, hnext]⟩
    · rw [h] at hsymbol
      exact Or.inl hsymbol
  · intro hcases
    rcases hcases with hsymbol | ⟨rfl, hgiven⟩
    · exact (lexicon.growsTo_enter first).symbol? hsymbol
    · exact symbol?_of_enter (Prod.ext hgiven rfl)

/-- The numbers of a lexicon are those that it had and those that are given. -/
theorem symbol?_entered_iff {lexicon : Lexicon} {symbols : List Symbol} {symbol : Symbol} {id : SymbolId} :
    (lexicon.entered symbols).symbol? id = some symbol ↔
      lexicon.symbol? id = some symbol ∨ (symbol, id) ∈ lexicon.granted symbols := by
  induction symbols generalizing lexicon with
  | nil => simp [entered, granted]
  | cons first rest ih => rw [entered_cons, ih, mem_granted_cons, symbol?_enter_iff, or_assoc]

theorem symbolOf_eq_ok_iff {lexicon : Lexicon} {id : SymbolId} {symbol : Symbol} :
    lexicon.symbolOf id = .ok symbol ↔ lexicon.symbol? id = some symbol := by
  rw [symbolOf]
  cases lexicon.symbol? id <;> simp

theorem symbolOf_eq_error_iff {lexicon : Lexicon} {id : SymbolId} {fault : Fault} :
    lexicon.symbolOf id = .error fault ↔ fault = .unassignedId id ∧ lexicon.size ≤ id.toNat := by
  rw [← Nat.not_lt, ← symbol?_isSome_iff, symbolOf]
  cases lexicon.symbol? id <;> simp [eq_comm]

theorem idOf_eq_ok_iff {lexicon : Lexicon} {symbol : Symbol} {id : SymbolId} :
    lexicon.idOf symbol = .ok id ↔ lexicon.id? symbol = some id := by
  rw [idOf]
  cases lexicon.id? symbol <;> simp

theorem idOf_eq_error_iff {lexicon : Lexicon} {symbol : Symbol} {fault : Fault} :
    lexicon.idOf symbol = .error fault ↔
      fault = .unknownSymbol symbol ∧ ∀ id, lexicon.id? symbol ≠ some id := by
  rw [← Option.eq_none_iff_forall_ne_some, idOf]
  cases lexicon.id? symbol <;> simp [eq_comm]

/-- A lexicon numbers just the symbols that were given numbers, each by the number that it was given. -/
structure Numbers (lexicon : Lexicon) (given : List (Symbol × SymbolId)) : Prop where
  symbolOf_iff : ∀ id symbol, lexicon.symbolOf id = .ok symbol ↔ lexicon.id? symbol = some id
  idOf_iff : ∀ id symbol, lexicon.idOf symbol = .ok id ↔ lexicon.id? symbol = some id
  given_iff : ∀ id symbol, lexicon.id? symbol = some id ↔ (symbol, id) ∈ given
  symbolOf_fails_iff : ∀ id fault,
    lexicon.symbolOf id = .error fault ↔ fault = .unassignedId id ∧ lexicon.size ≤ id.toNat
  idOf_fails_iff : ∀ symbol fault,
    lexicon.idOf symbol = .error fault ↔ fault = .unknownSymbol symbol ∧ ∀ id, (symbol, id) ∉ given
  order : lexicon.symbols.toList = (given.map Prod.fst).eraseDups

theorem numbers_entered (symbols : List Symbol) : (empty.entered symbols).Numbers (empty.granted symbols) := by
  have hgiven (id : SymbolId) (symbol : Symbol) :
      (empty.entered symbols).id? symbol = some id ↔ (symbol, id) ∈ empty.granted symbols := by
    rw [id?_eq_some_iff, symbol?_entered_iff]
    simp [empty, symbol?]
  constructor
  case symbolOf_iff =>
    intro id symbol
    rw [symbolOf_eq_ok_iff, id?_eq_some_iff]
  case idOf_iff => exact fun id symbol => idOf_eq_ok_iff
  case given_iff => exact hgiven
  case symbolOf_fails_iff => exact fun id fault => symbolOf_eq_error_iff
  case idOf_fails_iff =>
    intro symbol fault
    simp only [idOf_eq_error_iff, ne_eq, hgiven]
  case order => rw [toList_entered_eq_granted, toList_empty, List.nil_append, missing_empty]

theorem toList_entered_empty (symbols : List Symbol) :
    (empty.entered symbols).symbols.toList = symbols.eraseDups.take 65536 := by
  rw [toList_entered, toList_empty, List.nil_append, missing_empty]
  rfl

/-- A position of a list whose entry is the first one that stands in the list before. -/
def FirstRepeat (symbols : List Symbol) (i : Nat) : Prop :=
  (symbols.take i).Nodup ∧ ∃ symbol ∈ symbols.take i, symbols[i]? = some symbol

theorem FirstRepeat.lt_length {symbols : List Symbol} {i : Nat} (h : FirstRepeat symbols i) :
    i < symbols.length := by
  obtain ⟨_, symbol, _, hsymbol⟩ := h
  exact (List.getElem?_eq_some_iff.mp hsymbol).1

theorem FirstRepeat.of_take {symbols : List Symbol} {i n : Nat} (h : FirstRepeat (symbols.take n) i) :
    i < n ∧ FirstRepeat symbols i := by
  have hi := h.lt_length
  rw [List.length_take] at hi
  have hin : i < n := by omega
  obtain ⟨hnodup, symbol, hmem, hsymbol⟩ := h
  rw [List.take_take, Nat.min_eq_left (Nat.le_of_lt hin)] at hnodup hmem
  rw [List.getElem?_take_of_lt hin] at hsymbol
  exact ⟨hin, hnodup, symbol, hmem, hsymbol⟩

theorem exists_firstRepeat {symbols : List Symbol} (h : ¬symbols.Nodup) : ∃ i, FirstRepeat symbols i := by
  induction symbols using List.reverseRecOn with
  | nil => exact absurd List.nodup_nil h
  | append_singleton front symbol ih =>
    by_cases hfront : front.Nodup
    · -- The symbols before the last differ, so that the last is among them.
      rw [← List.concat_eq_append] at h
      have hmem : symbol ∈ front := by
        by_contra hnew
        exact h (hfront.concat hnew)
      refine ⟨front.length, ?_, symbol, ?_, ?_⟩
      · rwa [List.take_left]
      · rwa [List.take_left]
      · rw [List.getElem?_concat_length]
    · obtain ⟨i, hi⟩ := ih hfront
      have hlt := hi.lt_length
      rw [← @List.take_left _ front [symbol]] at hi
      exact ⟨i, hi.of_take.2⟩

/-- A list has few symbols and all of them differ, or a symbol is repeated in time, or too many differ. -/
theorem listing_cases (symbols : List Symbol) (limit : Nat) :
    (symbols.Nodup ∧ symbols.length ≤ limit) ∨ (∃ i ≤ limit, FirstRepeat symbols i) ∨
      ((symbols.take (limit + 1)).Nodup ∧ limit < symbols.length) := by
  by_cases hnodup : (symbols.take (limit + 1)).Nodup
  · by_cases hlength : symbols.length ≤ limit
    · rw [List.take_of_length_le (Nat.le_succ_of_le hlength)] at hnodup
      exact Or.inl ⟨hnodup, hlength⟩
    · exact Or.inr (Or.inr ⟨hnodup, Nat.not_le.mp hlength⟩)
  · obtain ⟨i, hi⟩ := exists_firstRepeat hnodup
    obtain ⟨hlt, hrepeat⟩ := hi.of_take
    exact Or.inr (Or.inl ⟨i, Nat.le_of_lt_succ hlt, hrepeat⟩)

theorem extend_append {lexicon grown : Lexicon} {front : List Symbol} (h : lexicon.extend front = .ok grown)
    (back : List Symbol) : lexicon.extend (front ++ back) = grown.extend back := by
  induction front generalizing lexicon with
  | nil =>
    obtain rfl := Except.ok.inj h
    rfl
  | cons symbol front ih =>
    rw [extend] at h
    rw [List.cons_append, extend]
    split at h
    next id newer henter =>
      split at h
      next hid =>
        simp only [hid, if_true]
        exact ih h
      next => exact absurd h (by simp)
    next => exact absurd h (by simp)

/-- Symbols that differ, and for which there are enough numbers, are listed as they are. -/
theorem ofList_of_nodup {symbols : List Symbol} (hnodup : symbols.Nodup) (hlength : symbols.length ≤ 65536) :
    ofList symbols = .ok (empty.entered symbols) := by
  have hmissing : empty.missing symbols = symbols := missing_eq_self hnodup (by simp [toList_empty])
  rw [missing_empty] at hmissing
  rw [ofList_eq_ok_iff, toList_entered_empty, hmissing, List.take_of_length_le hlength]

theorem ofList_of_take {symbols : List Symbol} {i : Nat} (hi : i ≤ 65536) (hnodup : (symbols.take i).Nodup) :
    ∃ lexicon : Lexicon, lexicon.symbols.toList = symbols.take i ∧
      ofList symbols = lexicon.extend (symbols.drop i) := by
  have hlength : (symbols.take i).length ≤ 65536 := by
    rw [List.length_take]
    omega
  have hfront := ofList_of_nodup hnodup hlength
  refine ⟨_, ofList_eq_ok_iff.mp hfront, ?_⟩
  rw [ofList, ← extend_append hfront, List.take_append_drop]

theorem ofList_of_firstRepeat {symbols : List Symbol} {i : Nat} (hi : i ≤ 65536)
    (h : FirstRepeat symbols i) : ofList symbols = .error (.defective (.repeatedSymbol i)) := by
  have hlt := h.lt_length
  obtain ⟨hnodup, symbol, hmem, hsymbol⟩ := h
  obtain ⟨lexicon, hlisted, hextend⟩ := ofList_of_take hi hnodup
  have hsize : lexicon.size = i := by
    rw [size_eq_length, hlisted, List.length_take, Nat.min_eq_left (Nat.le_of_lt hlt)]
  rw [List.getElem?_eq_getElem hlt, Option.some.injEq] at hsymbol
  rw [← hlisted] at hmem
  rw [hextend, List.drop_eq_getElem_cons hlt, hsymbol, extend]
  rcases lexicon.enter_cases symbol with ⟨id, hid, h⟩ | ⟨hnone, _⟩ | ⟨hnone, _⟩
  · have hold : id.toNat < lexicon.size := lt_size (id?_eq_some_iff.mp hid)
    rw [hsize] at hold
    simp only [h, hsize, Nat.ne_of_lt hold, if_false]
  · exact absurd hmem (id?_eq_none_iff.mp hnone)
  · exact absurd hmem (id?_eq_none_iff.mp hnone)

theorem ofList_of_overfull {symbols : List Symbol} (hnodup : (symbols.take 65537).Nodup)
    (hlength : 65536 < symbols.length) : ofList symbols = .error (.full 65536) := by
  rw [List.take_succ_eq_append_getElem hlength] at hnodup
  obtain ⟨hfront, _, hdiffer⟩ := List.nodup_append.mp hnodup
  obtain ⟨lexicon, hlisted, hextend⟩ := ofList_of_take (Nat.le_refl 65536) hfront
  have hsize : lexicon.size = capacity := by
    rw [size_eq_length, hlisted, List.length_take, Nat.min_eq_left (Nat.le_of_lt hlength)]
    rfl
  have hnew : symbols[65536] ∉ lexicon.symbols.toList := by
    rw [hlisted]
    intro hmem
    exact hdiffer _ hmem _ List.mem_cons_self rfl
  rw [hextend, List.drop_eq_getElem_cons hlength, extend]
  rcases lexicon.enter_cases symbols[65536] with ⟨id, hid, _⟩ | ⟨_, room, _⟩ | ⟨_, _, h⟩
  · exact absurd (mem_of_id? hid) hnew
  · exact absurd room (by rw [hsize]; exact Nat.lt_irrefl _)
  · simp only [h]
    rfl

/-- What listing symbols can do: list them all, or fail at the first that is repeated or finds no number. -/
theorem ofList_cases (symbols : List Symbol) :
    (∃ lexicon, ofList symbols = .ok lexicon) ∨
    (∃ i ≤ 65536, FirstRepeat symbols i ∧ ofList symbols = .error (.defective (.repeatedSymbol i))) ∨
    ((symbols.take 65537).Nodup ∧ 65536 < symbols.length ∧ ofList symbols = .error (.full 65536)) := by
  rcases listing_cases symbols 65536 with ⟨hnodup, hlength⟩ | ⟨i, hi, hrepeat⟩ | ⟨hnodup, hlength⟩
  · exact Or.inl ⟨_, ofList_of_nodup hnodup hlength⟩
  · exact Or.inr (Or.inl ⟨i, hi, hrepeat, ofList_of_firstRepeat hi hrepeat⟩)
  · exact Or.inr (Or.inr ⟨hnodup, hlength, ofList_of_overfull hnodup hlength⟩)

/-- A list makes the lexicon that entering its symbols makes, or fails by the first of them that is repeated or
finds no number. -/
structure ListsAsEntered (symbols : List Symbol) : Prop where
  ok_iff : (∃ lexicon, ofList symbols = .ok lexicon) ↔ symbols.Nodup ∧ symbols.length ≤ 65536
  listed : ∀ lexicon, ofList symbols = .ok lexicon →
    lexicon.symbols.toList = symbols ∧ lexicon = empty.entered symbols
  repeated_iff : ∀ i, ofList symbols = .error (.defective (.repeatedSymbol i)) ↔
    i ≤ 65536 ∧ FirstRepeat symbols i
  full_iff : ofList symbols = .error (.full 65536) ↔
    (symbols.take 65537).Nodup ∧ 65536 < symbols.length
  faults : ∀ fault, ofList symbols = .error fault →
    fault = .full 65536 ∨ ∃ i, fault = .defective (.repeatedSymbol i)

theorem nodup_of_ofList {symbols : List Symbol} {lexicon : Lexicon} (h : ofList symbols = .ok lexicon) :
    symbols.Nodup ∧ symbols.length ≤ 65536 := by
  rw [ofList_eq_ok_iff] at h
  rw [← h, ← size_eq_length]
  exact ⟨lexicon.nodup_symbols, lexicon.size_le⟩

theorem listsAsEntered (symbols : List Symbol) : ListsAsEntered symbols := by
  constructor
  case ok_iff =>
    constructor
    · intro hexists
      obtain ⟨lexicon, hlexicon⟩ := hexists
      exact nodup_of_ofList hlexicon
    · intro hboth
      exact ⟨_, ofList_of_nodup hboth.1 hboth.2⟩
  case listed =>
    intro lexicon hlexicon
    obtain ⟨hnodup, hlength⟩ := nodup_of_ofList hlexicon
    refine ⟨ofList_eq_ok_iff.mp hlexicon, ?_⟩
    rw [ofList_of_nodup hnodup hlength] at hlexicon
    exact (Except.ok.inj hlexicon).symm
  case repeated_iff =>
    intro i
    constructor
    · intro hfault
      rcases ofList_cases symbols with ⟨_, h⟩ | ⟨j, hj, hrepeat, h⟩ | ⟨_, _, h⟩
      · exact absurd (h.symm.trans hfault) (by simp)
      · obtain rfl : j = i := by simpa using h.symm.trans hfault
        exact ⟨hj, hrepeat⟩
      · exact absurd (h.symm.trans hfault) (by simp)
    · intro hboth
      exact ofList_of_firstRepeat hboth.1 hboth.2
  case full_iff =>
    constructor
    · intro hfault
      rcases ofList_cases symbols with ⟨_, h⟩ | ⟨_, _, _, h⟩ | ⟨hnodup, hlength, _⟩
      · exact absurd (h.symm.trans hfault) (by simp)
      · exact absurd (h.symm.trans hfault) (by simp)
      · exact ⟨hnodup, hlength⟩
    · intro hboth
      exact ofList_of_overfull hboth.1 hboth.2
  case faults =>
    intro fault hfault
    rcases ofList_cases symbols with ⟨_, h⟩ | ⟨i, _, _, h⟩ | ⟨_, _, h⟩
    · exact absurd (h.symm.trans hfault) (by simp)
    · exact Or.inr ⟨i, (Except.error.inj (h.symm.trans hfault)).symm⟩
    · exact Or.inl (Except.error.inj (h.symm.trans hfault)).symm

/-- Entering symbols one after another gives one number to each symbol that finds one, in the order in which
they first do, for as long as there are numbers, and a number stands for its symbol ever after. Listing the
symbols all at once gives the same lexicon, if none of them is repeated and there are not too many. -/
theorem entered_numbers (symbols more : List Symbol) :
    let lexicon := empty.entered symbols
    let given := empty.granted symbols
    lexicon.Numbers given ∧
      lexicon.symbols.toList = symbols.eraseDups.take 65536 ∧ lexicon.size ≤ 65536 ∧
      (∀ id symbol, (symbol, id) ∈ given → (empty.entered (symbols ++ more)).symbolOf id = .ok symbol) ∧
      ListsAsEntered symbols := by
  intro lexicon given
  refine ⟨numbers_entered symbols, toList_entered_empty symbols, lexicon.size_le, ?_, listsAsEntered symbols⟩
  intro id symbol hgiven
  have hnow : lexicon.symbol? id = some symbol := symbol?_entered_iff.mpr (Or.inr hgiven)
  rw [entered_append, symbolOf_eq_ok_iff]
  exact (growsTo_entered lexicon more).symbol? hnow

end Banter.Lexicon
