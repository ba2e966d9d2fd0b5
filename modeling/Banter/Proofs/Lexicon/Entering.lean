import Banter.Lexicon

namespace Banter.Lexicon

/-- A lexicon grows to another that lists the same symbols and perhaps more after them. -/
def GrowsTo (older newer : Lexicon) : Prop :=
  older.symbols.toList <+: newer.symbols.toList

/-- Numbers spell the symbols that they stand for, one by one. -/
def Spells (lexicon : Lexicon) (ids : List SymbolId) (symbols : List Symbol) : Prop :=
  ids.map lexicon.symbol? = symbols.map some

theorem symbol?_eq_getElem? (lexicon : Lexicon) (id : SymbolId) :
    lexicon.symbol? id = lexicon.symbols.toList[id.toNat]? := by
  rw [symbol?, Array.getElem?_toList]

theorem size_eq_length (lexicon : Lexicon) : lexicon.size = lexicon.symbols.toList.length := by
  rw [size, Array.length_toList]

theorem symbol?_isSome_iff {lexicon : Lexicon} {id : SymbolId} :
    (lexicon.symbol? id).isSome = true ↔ id.toNat < lexicon.size := by
  simp [symbol?, size]

theorem lt_size {lexicon : Lexicon} {id : SymbolId} {symbol : Symbol}
    (h : lexicon.symbol? id = some symbol) : id.toNat < lexicon.size :=
  symbol?_isSome_iff.mp (by rw [h]; rfl)

theorem toNat_ofNat_of_lt_length {lexicon : Lexicon} {i : Nat} (hi : i < lexicon.symbols.toList.length) :
    (UInt16.ofNat i).toNat = i := by
  rw [Array.length_toList] at hi
  exact UInt16.toNat_ofNat_of_lt' (Nat.lt_of_lt_of_le hi lexicon.size_le)

theorem id?_getElem {lexicon : Lexicon} {i : Nat} (hi : i < lexicon.symbols.toList.length) :
    lexicon.id? lexicon.symbols.toList[i] = some (UInt16.ofNat i) := by
  rw [id?_eq_some_iff, symbol?_eq_getElem?, toNat_ofNat_of_lt_length hi, List.getElem?_eq_getElem hi]

/-- No symbol is listed twice. -/
theorem nodup_symbols (lexicon : Lexicon) : lexicon.symbols.toList.Nodup := by
  rw [List.Nodup, List.pairwise_iff_getElem]
  intro i j hi hj hij heq
  have hsame := id?_getElem hi
  rw [heq, id?_getElem hj] at hsame
  have hnat := congrArg UInt16.toNat (Option.some.inj hsame)
  rw [toNat_ofNat_of_lt_length hi, toNat_ofNat_of_lt_length hj] at hnat
  omega

theorem mem_of_id? {lexicon : Lexicon} {symbol : Symbol} {id : SymbolId} (h : lexicon.id? symbol = some id) :
    symbol ∈ lexicon.symbols.toList := by
  rw [id?_eq_some_iff, symbol?_eq_getElem?] at h
  exact List.mem_of_getElem? h

theorem id?_eq_none_iff {lexicon : Lexicon} {symbol : Symbol} :
    lexicon.id? symbol = none ↔ symbol ∉ lexicon.symbols.toList := by
  constructor
  · intro hnone hmem
    obtain ⟨i, hi, rfl⟩ := List.mem_iff_getElem.mp hmem
    rw [id?_getElem hi] at hnone
    exact absurd hnone (by simp)
  · intro hnot
    rw [Option.eq_none_iff_forall_ne_some]
    intro id hid
    exact hnot (mem_of_id? hid)

theorem mem_symbols_iff {lexicon : Lexicon} {symbol : Symbol} :
    symbol ∈ lexicon.symbols ↔ ∃ id, lexicon.symbol? id = some symbol := by
  rw [← Array.mem_toList_iff]
  constructor
  · intro hmem
    obtain ⟨i, hi, rfl⟩ := List.mem_iff_getElem.mp hmem
    exact ⟨_, id?_eq_some_iff.mp (id?_getElem hi)⟩
  · intro hexists
    obtain ⟨id, hid⟩ := hexists
    exact mem_of_id? (id?_eq_some_iff.mpr hid)

/-- A symbol has one number only. -/
theorem symbol?_injective {lexicon : Lexicon} {a b : SymbolId} {symbol : Symbol}
    (ha : lexicon.symbol? a = some symbol) (hb : lexicon.symbol? b = some symbol) : a = b := by
  have hsame := id?_eq_some_iff.mpr ha
  rw [id?_eq_some_iff.mpr hb] at hsame
  exact (Option.some.inj hsame).symm

theorem GrowsTo.refl (lexicon : Lexicon) : lexicon.GrowsTo lexicon :=
  List.prefix_refl _

theorem GrowsTo.trans {a b c : Lexicon} (hab : a.GrowsTo b) (hbc : b.GrowsTo c) : a.GrowsTo c :=
  List.IsPrefix.trans hab hbc

theorem GrowsTo.size_le_size {older newer : Lexicon} (h : older.GrowsTo newer) :
    older.size ≤ newer.size := by
  rw [size_eq_length, size_eq_length]
  exact List.IsPrefix.length_le h

theorem GrowsTo.symbol? {older newer : Lexicon} (h : older.GrowsTo newer) {id : SymbolId}
    {symbol : Symbol} (hid : older.symbol? id = some symbol) : newer.symbol? id = some symbol := by
  obtain ⟨more, hmore⟩ := h
  rw [symbol?_eq_getElem?] at hid
  rw [symbol?_eq_getElem?, ← hmore, List.getElem?_append_left, hid]
  exact (List.getElem?_eq_some_iff.mp hid).1

/-- What entering one symbol can do: nothing, add the symbol at the end, or fail for want of room. -/
theorem enter_cases (lexicon : Lexicon) (symbol : Symbol) :
    (∃ id, lexicon.id? symbol = some id ∧ lexicon.enter symbol = (.ok id, lexicon)) ∨
    (lexicon.id? symbol = none ∧ lexicon.size < capacity ∧ ∃ newer,
      lexicon.enter symbol = (.ok lexicon.next, newer) ∧
        newer.symbols.toList = lexicon.symbols.toList ++ [symbol]) ∨
    (lexicon.id? symbol = none ∧ lexicon.size = capacity ∧
      lexicon.enter symbol = (.error (.full capacity), lexicon)) := by
  unfold enter
  split
  next id hid => exact Or.inl ⟨id, hid, rfl⟩
  next hnone =>
    split
    next room =>
      refine Or.inr (Or.inl ⟨hnone, room, lexicon.append symbol hnone room, rfl, ?_⟩)
      rw [append, Array.toList_push]
    next noRoom =>
      exact Or.inr (Or.inr ⟨hnone, Nat.le_antisymm lexicon.size_le (Nat.not_lt.mp noRoom), rfl⟩)

theorem growsTo_enter (lexicon : Lexicon) (symbol : Symbol) :
    lexicon.GrowsTo (lexicon.enter symbol).2 := by
  rcases lexicon.enter_cases symbol with ⟨id, _, h⟩ | ⟨_, _, newer, h, hnewer⟩ | ⟨_, _, h⟩
  · rw [h]
    exact GrowsTo.refl lexicon
  · rw [h, GrowsTo, hnewer]
    exact List.prefix_append _ _
  · rw [h]
    exact GrowsTo.refl lexicon

theorem symbol?_of_enter {lexicon newer : Lexicon} {symbol : Symbol} {id : SymbolId}
    (h : lexicon.enter symbol = (.ok id, newer)) : newer.symbol? id = some symbol := by
  rcases lexicon.enter_cases symbol with ⟨known, hid, h'⟩ | ⟨_, room, grown, h', hgrown⟩ | ⟨_, _, h'⟩
  · obtain ⟨hok, rfl⟩ := Prod.mk.inj (h'.symm.trans h)
    obtain rfl := Except.ok.inj hok
    exact id?_eq_some_iff.mp hid
  · obtain ⟨hok, rfl⟩ := Prod.mk.inj (h'.symm.trans h)
    obtain rfl := Except.ok.inj hok
    rw [symbol?_eq_getElem?, toNat_next room, hgrown, size_eq_length]
    simp
  · exact absurd (h'.symm.trans h) (by simp)

theorem fault_of_enter {lexicon newer : Lexicon} {symbol : Symbol} {fault : Fault}
    (h : lexicon.enter symbol = (.error fault, newer)) : fault = .full capacity := by
  rcases lexicon.enter_cases symbol with ⟨_, _, h'⟩ | ⟨_, _, _, h', _⟩ | ⟨_, _, h'⟩
  · exact absurd (h'.symm.trans h) (by simp)
  · exact absurd (h'.symm.trans h) (by simp)
  · exact (Except.error.inj (Prod.mk.inj (h'.symm.trans h)).1).symm

theorem Spells.of_growsTo {older newer : Lexicon} {ids : List SymbolId} {symbols : List Symbol}
    (hspells : older.Spells ids symbols) (h : older.GrowsTo newer) : newer.Spells ids symbols := by
  unfold Spells at hspells ⊢
  rw [← hspells]
  apply List.map_congr_left
  intro id hid
  have hmem : older.symbol? id ∈ symbols.map some := hspells ▸ List.mem_map_of_mem hid
  obtain ⟨symbol, _, hsymbol⟩ := List.mem_map.mp hmem
  rw [← hsymbol]
  exact h.symbol? hsymbol.symm

theorem Spells.length_eq {lexicon : Lexicon} {ids : List SymbolId} {symbols : List Symbol}
    (h : lexicon.Spells ids symbols) : ids.length = symbols.length := by
  simpa using congrArg List.length h

theorem spells_cons {lexicon : Lexicon} {id : SymbolId} {ids : List SymbolId} {symbol : Symbol}
    {symbols : List Symbol} :
    lexicon.Spells (id :: ids) (symbol :: symbols) ↔
      lexicon.symbol? id = some symbol ∧ lexicon.Spells ids symbols := by
  simp [Spells]

theorem Spells.append {lexicon : Lexicon} {ids more : List SymbolId} {symbols others : List Symbol}
    (h : lexicon.Spells ids symbols) (hmore : lexicon.Spells more others) :
    lexicon.Spells (ids ++ more) (symbols ++ others) := by
  simpa [Spells] using congr (congrArg List.append h) hmore

theorem Spells.lt_size {lexicon : Lexicon} {ids : List SymbolId} {symbols : List Symbol}
    (h : lexicon.Spells ids symbols) {id : SymbolId} (hid : id ∈ ids) : id.toNat < lexicon.size := by
  have hmem : lexicon.symbol? id ∈ symbols.map some := h ▸ List.mem_map_of_mem hid
  obtain ⟨symbol, _, hsymbol⟩ := List.mem_map.mp hmem
  exact Lexicon.lt_size hsymbol.symm

theorem Spells.exists_id {lexicon : Lexicon} {ids : List SymbolId} {symbols : List Symbol}
    (h : lexicon.Spells ids symbols) {symbol : Symbol} (hsymbol : symbol ∈ symbols) :
    ∃ id ∈ ids, lexicon.symbol? id = some symbol := by
  have hmem : some symbol ∈ ids.map lexicon.symbol? := h ▸ List.mem_map_of_mem hsymbol
  exact List.mem_map.mp hmem

/-- Numbers that are all given spell something. -/
theorem exists_spells {lexicon : Lexicon} {ids : List SymbolId}
    (h : ∀ id ∈ ids, id.toNat < lexicon.size) : ∃ symbols, lexicon.Spells ids symbols := by
  induction ids with
  | nil => exact ⟨[], rfl⟩
  | cons id ids ih =>
    obtain ⟨hid, hids⟩ := List.forall_mem_cons.mp h
    obtain ⟨symbol, hsymbol⟩ := Option.isSome_iff_exists.mp (symbol?_isSome_iff.mpr hid)
    obtain ⟨symbols, hsymbols⟩ := ih hids
    exact ⟨symbol :: symbols, spells_cons.mpr ⟨hsymbol, hsymbols⟩⟩

theorem spells_append_left {lexicon : Lexicon} {ids more : List SymbolId} {symbols : List Symbol} :
    lexicon.Spells (ids ++ more) symbols ↔
      ∃ first rest, symbols = first ++ rest ∧ lexicon.Spells ids first ∧ lexicon.Spells more rest := by
  constructor
  · intro h
    rw [Spells, List.map_append] at h
    obtain ⟨first, rest, rfl, hfirst, hrest⟩ := List.map_eq_append_iff.mp h.symm
    exact ⟨first, rest, rfl, hfirst.symm, hrest.symm⟩
  · intro hexists
    obtain ⟨first, rest, rfl, hfirst, hrest⟩ := hexists
    exact hfirst.append hrest

theorem spells_append_right {lexicon : Lexicon} {ids : List SymbolId} {symbols others : List Symbol} :
    lexicon.Spells ids (symbols ++ others) ↔
      ∃ first rest, ids = first ++ rest ∧ lexicon.Spells first symbols ∧ lexicon.Spells rest others := by
  constructor
  · intro h
    rw [Spells, List.map_append] at h
    exact List.map_eq_append_iff.mp h
  · intro hexists
    obtain ⟨first, rest, rfl, hfirst, hrest⟩ := hexists
    exact hfirst.append hrest

theorem Spells.take {lexicon : Lexicon} {ids : List SymbolId} {symbols : List Symbol}
    (h : lexicon.Spells ids symbols) (n : Nat) : lexicon.Spells (ids.take n) (symbols.take n) := by
  unfold Spells at *
  rw [List.map_take, List.map_take, h]

/-- What a run of numbers spells is a run of what all the numbers spell. -/
theorem Spells.exists_infix {lexicon : Lexicon} {ids run : List SymbolId} {symbols : List Symbol}
    (h : lexicon.Spells ids symbols) (hrun : run <:+: ids) :
    ∃ part, part <:+: symbols ∧ lexicon.Spells run part := by
  obtain ⟨front, back, rfl⟩ := hrun
  obtain ⟨first, rest, rfl, hfirst, _⟩ := spells_append_left.mp h
  obtain ⟨before, part, rfl, _, hpart⟩ := spells_append_left.mp hfirst
  exact ⟨part, ⟨before, rest, rfl⟩, hpart⟩

/-- A run of what numbers spell is spelled by a run of the numbers. -/
theorem Spells.exists_run {lexicon : Lexicon} {ids : List SymbolId} {symbols part : List Symbol}
    (h : lexicon.Spells ids symbols) (hpart : part <:+: symbols) :
    ∃ run, run <:+: ids ∧ lexicon.Spells run part := by
  obtain ⟨before, after, rfl⟩ := hpart
  obtain ⟨first, rest, rfl, hfirst, _⟩ := spells_append_right.mp h
  obtain ⟨front, run, rfl, _, hrun⟩ := spells_append_right.mp hfirst
  exact ⟨run, ⟨front, rest, rfl⟩, hrun⟩

theorem Spells.unique_symbols {lexicon : Lexicon} {ids : List SymbolId} {symbols others : List Symbol}
    (h : lexicon.Spells ids symbols) (hothers : lexicon.Spells ids others) : symbols = others :=
  (List.map_inj_right fun _ _ => Option.some.inj).mp (h.symm.trans hothers)

/-- Symbols are spelled in one way only. -/
theorem Spells.unique {lexicon : Lexicon} {ids others : List SymbolId} {symbols : List Symbol}
    (h : lexicon.Spells ids symbols) (hothers : lexicon.Spells others symbols) : ids = others := by
  induction symbols generalizing ids others with
  | nil => simp_all [Spells]
  | cons symbol symbols ih =>
    cases ids with
    | nil => simp [Spells] at h
    | cons id ids =>
      cases others with
      | nil => simp [Spells] at hothers
      | cons other others =>
        obtain ⟨hid, hids⟩ := spells_cons.mp h
        obtain ⟨hother, hothers⟩ := spells_cons.mp hothers
        rw [symbol?_injective hid hother, ih hids hothers]

theorem growsTo_enterOnto (ids : Array SymbolId) (lexicon : Lexicon) (symbols : List Symbol) :
    lexicon.GrowsTo (lexicon.enterOnto ids symbols).2 := by
  induction symbols generalizing ids lexicon with
  | nil => exact GrowsTo.refl lexicon
  | cons symbol symbols ih =>
    have hgrows := lexicon.growsTo_enter symbol
    rw [enterOnto]
    split
    next id newer h =>
      rw [h] at hgrows
      exact hgrows.trans (ih (ids.push id) newer)
    next fault newer h =>
      rw [h] at hgrows
      exact hgrows

theorem growsTo_enterAll (lexicon : Lexicon) (symbols : List Symbol) :
    lexicon.GrowsTo (lexicon.enterAll symbols).2 :=
  growsTo_enterOnto #[] lexicon symbols

theorem spells_of_enterOnto {ids found : Array SymbolId} {lexicon newer : Lexicon}
    {symbols done : List Symbol} (hdone : lexicon.Spells ids.toList done)
    (h : lexicon.enterOnto ids symbols = (.ok found, newer)) :
    newer.Spells found.toList (done ++ symbols) := by
  induction symbols generalizing ids lexicon done with
  | nil =>
    obtain ⟨hok, rfl⟩ := Prod.mk.inj h
    obtain rfl := Except.ok.inj hok
    simpa using hdone
  | cons symbol symbols ih =>
    have hgrows := lexicon.growsTo_enter symbol
    rw [enterOnto] at h
    split at h
    next id grown hentered =>
      rw [hentered] at hgrows
      have hid := symbol?_of_enter hentered
      have hpush : grown.Spells (ids.push id).toList (done ++ [symbol]) := by
        rw [Array.toList_push]
        exact (hdone.of_growsTo hgrows).append (by simp [Spells, hid])
      simpa using ih hpush h
    next => exact absurd h (by simp)

/-- The numbers that are given for symbols spell them. -/
theorem spells_of_enterAll {lexicon newer : Lexicon} {symbols : List Symbol} {ids : Array SymbolId}
    (h : lexicon.enterAll symbols = (.ok ids, newer)) : newer.Spells ids.toList symbols := by
  have hdone : lexicon.Spells (#[] : Array SymbolId).toList [] := rfl
  simpa using spells_of_enterOnto hdone h

theorem fault_of_enterOnto {ids : Array SymbolId} {lexicon newer : Lexicon} {symbols : List Symbol}
    {fault : Fault} (h : lexicon.enterOnto ids symbols = (.error fault, newer)) :
    fault = .full capacity := by
  induction symbols generalizing ids lexicon with
  | nil => exact absurd h (by simp [enterOnto])
  | cons symbol symbols ih =>
    rw [enterOnto] at h
    split at h
    next => exact ih h
    next fault' _ hentered =>
      obtain ⟨herror, _⟩ := Prod.mk.inj h
      rw [← Except.error.inj herror]
      exact fault_of_enter hentered

theorem fault_of_enterAll {lexicon newer : Lexicon} {symbols : List Symbol} {fault : Fault}
    (h : lexicon.enterAll symbols = (.error fault, newer)) : fault = .full capacity :=
  fault_of_enterOnto h

theorem extend_eq_ok_iff {lexicon newer : Lexicon} {symbols : List Symbol} :
    lexicon.extend symbols = .ok newer ↔
      newer.symbols.toList = lexicon.symbols.toList ++ symbols := by
  induction symbols generalizing lexicon with
  | nil =>
    simp only [extend, Except.ok.injEq, List.append_nil]
    constructor
    · rintro rfl
      rfl
    · intro h
      exact ext (Array.toList_inj.mp h.symm)
  | cons symbol symbols ih =>
    have hnodup := newer.nodup_symbols
    rw [extend]
    rcases lexicon.enter_cases symbol with ⟨id, hid, h⟩ | ⟨hnone, room, grown, h, hgrown⟩ | ⟨_, hfull, h⟩
    · -- A symbol that is listed already would be listed twice.
      have hlt := lt_size (id?_eq_some_iff.mp hid)
      have hknown := mem_of_id? hid
      simp only [h, Nat.ne_of_lt hlt, if_false, reduceCtorEq, false_iff]
      intro happend
      rw [happend, List.nodup_append] at hnodup
      exact hnodup.2.2 symbol hknown symbol List.mem_cons_self rfl
    · simp only [h, toNat_next room, if_true, ih, hgrown, List.append_assoc, List.singleton_append]
    · simp only [h, reduceCtorEq, false_iff]
      intro happend
      have hlength := congrArg List.length happend
      rw [← size_eq_length, List.length_append, ← size_eq_length, hfull, List.length_cons] at hlength
      have : newer.size ≤ capacity := newer.size_le
      omega

/-- A list makes a lexicon exactly when some lexicon lists it. -/
theorem ofList_eq_ok_iff {symbols : List Symbol} {lexicon : Lexicon} :
    ofList symbols = .ok lexicon ↔ lexicon.symbols.toList = symbols := by
  rw [ofList, extend_eq_ok_iff]
  rfl

end Banter.Lexicon
