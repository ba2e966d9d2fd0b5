import Mathlib.Data.List.Basic
import Banter.Proofs.Conversation.Sayings

/-!
# Where replies begin and end

A run of two numbers in a learned text goes on in both directions, unless the stop is next. So a reply never
comes to a place where nothing can be added: short of the hard limit, it begins where a text or a sentence
begins, and ends where a text ends, or a sentence once the soft limit is reached.
-/

namespace Banter

/-- Whether a symbol begins a text that is long enough to be learned from, or a sentence within one. -/
def Opens (learned : List String) (symbol : Symbol) : Prop :=
  ∃ source ∈ learned, 3 ≤ (symbolsOf source).length ∧
    ([symbol] <+: symbolsOf source ∨
      ∃ mark, mark.endsSentence = true ∧ [mark, symbol] <:+: symbolsOf source)

/-- Whether symbols end as a text does before its stop, or with a sentence if they are many. -/
def Closes (learned : List String) (said : List Symbol) : Prop :=
  (25 ≤ said.length ∧ ∃ mark ∈ said.getLast?, mark.endsSentence = true) ∨
    ∃ source ∈ learned, ∃ a b, [a, b] <:+ said ∧ [a, b, .stop] <:+ symbolsOf source

namespace Lexicon

variable {lexicon : Lexicon}

theorem symbol?_last {ids : List SymbolId} {id : SymbolId} {text : String}
    (h : lexicon.Spells (ids ++ [id]) (symbolsOf text)) : lexicon.symbol? id = some .stop := by
  rcases symbolsOf_cases text with hnone | ⟨front, hfront, _⟩
  · rw [hnone] at h
    have hlength := h.length_eq
    simp at hlength
  · rw [hfront, Spells, List.map_append, List.map_append] at h
    exact List.singleton_inj.mp (List.append_inj' h rfl).2

theorem Spells.exists_prefix {ids front : List SymbolId} {symbols : List Symbol}
    (h : lexicon.Spells ids symbols) (hfront : front <+: ids) :
    ∃ part, part <+: symbols ∧ lexicon.Spells front part := by
  obtain ⟨back, rfl⟩ := hfront
  obtain ⟨first, rest, rfl, hfirst, _⟩ := spells_append_left.mp h
  exact ⟨first, ⟨rest, rfl⟩, hfirst⟩

theorem Spells.exists_suffix {ids back : List SymbolId} {symbols : List Symbol}
    (h : lexicon.Spells ids symbols) (hback : back <:+ ids) :
    ∃ part, part <:+ symbols ∧ lexicon.Spells back part := by
  obtain ⟨front, rfl⟩ := hback
  obtain ⟨first, rest, rfl, _, hrest⟩ := spells_append_left.mp h
  exact ⟨rest, ⟨first, rfl⟩, hrest⟩

theorem spells_singleton {id : SymbolId} {symbol : Symbol} (h : lexicon.symbol? id = some symbol) :
    lexicon.Spells [id] [symbol] :=
  spells_cons.mpr ⟨h, rfl⟩

end Lexicon

namespace Brain

variable {brain : Brain} {learned : List String}

theorem Knows.hasPath_of_new (h : brain.Knows learned) {source : String} (hsource : source ∈ learned)
    {ids : Array SymbolId} {stop : SymbolId} (hspells : brain.lexicon.Spells ids.toList (symbolsOf source))
    (hstop : order < ids.size → brain.lexicon.symbol? stop = some .stop) {direction : Direction}
    {path : List SymbolId} (hnew : path ∈ Memory.newPaths order ids stop direction) :
    (brain.memory.trie direction).HasPath path := by
  have hsome : path ≠ [] := List.ne_nil_of_length_eq_add_one (Memory.length_of_mem_newPaths hnew)
  have hteaches := (Lexicon.teaches_iff hspells hstop).mpr ⟨path, hnew, List.prefix_refl path⟩
  exact (h.paths direction path hsome).mpr ⟨source, hsource, hteaches⟩

/-- Two numbers in a row go on to a third, if the second is not the stop. -/
theorem Knows.exists_next (h : brain.Knows learned) {a b : SymbolId}
    (hpair : ∃ source ∈ learned, brain.lexicon.IsRun source [a, b]) (hb : brain.isStop b = false) :
    ∃ next, (brain.memory.trie .onward).HasPath [a, b, next] := by
  obtain ⟨source, hsource, ids, hspells, _, front, back, rfl⟩ := hpair
  cases back with
  | nil =>
    rw [List.append_nil, show [a, b] = [a] ++ [b] from rfl, ← List.append_assoc] at hspells
    rw [isStop_iff.mpr (Lexicon.symbol?_last hspells)] at hb
    exact absurd hb (by simp)
  | cons next back =>
    obtain ⟨stop, hstop⟩ := @Lexicon.exists_stop _ (front ++ [a, b] ++ next :: back).toArray _ hspells
    have hnew : [a, b, next] ∈ Memory.newPaths order (front ++ [a, b] ++ next :: back).toArray stop .onward :=
      Memory.mem_newPaths_onward.mpr ⟨rfl, front, back, by simp⟩
    exact ⟨next, h.hasPath_of_new hsource hspells hstop hnew⟩

/-- Two numbers in a row come from a third, which is the stop if they begin a text. -/
theorem Knows.exists_previous (h : brain.Knows learned) {a b : SymbolId}
    (hpair : ∃ source ∈ learned, brain.lexicon.IsRun source [a, b]) (hb : brain.isStop b = false) :
    ∃ previous, (brain.memory.trie .backward).HasPath [b, a, previous] := by
  obtain ⟨source, hsource, ids, hspells, hlong, front, back, rfl⟩ := hpair
  obtain ⟨stop, hstop⟩ := @Lexicon.exists_stop _ (front ++ [a, b] ++ back).toArray _ hspells
  have hnew (previous : SymbolId) (hcases : (front = [] ∧ previous = stop) ∨ [previous] <:+ front) :
      [b, a, previous] ∈ Memory.newPaths order (front ++ [a, b] ++ back).toArray stop .backward := by
    rw [Memory.mem_newPaths_backward]
    rcases hcases with ⟨rfl, rfl⟩ | ⟨before, rfl⟩
    · exact Or.inl ⟨by decide, hlong, rfl⟩
    · refine Or.inr ⟨rfl, ⟨before, back, by simp⟩, ?_⟩
      intro hhead
      obtain rfl : b = stop := Option.some.inj hhead
      rw [isStop_iff.mpr (hstop hlong)] at hb
      exact absurd hb (by simp)
  rcases List.eq_nil_or_concat' front with hnone | ⟨before, previous, hfront⟩
  · exact ⟨stop, h.hasPath_of_new hsource hspells hstop (hnew stop (Or.inl ⟨hnone, rfl⟩))⟩
  · have hlast : [previous] <:+ front := ⟨before, hfront.symm⟩
    exact ⟨previous, h.hasPath_of_new hsource hspells hstop (hnew previous (Or.inr hlast))⟩

theorem Repeats.isRun_pair {said : List SymbolId} (h : brain.Repeats learned said) {a b : SymbolId}
    (hpair : [a, b] <:+: said) :
    (∃ source ∈ learned, brain.lexicon.IsRun source [a, b]) ∧ brain.isStop b = false := by
  refine ⟨h.runs [a, b] hpair (Nat.le_succ 2), h.goes b ?_⟩
  exact hpair.subset (List.mem_cons_of_mem a List.mem_cons_self)

/-- A context that something follows is known and has children. -/
theorem exists_node {context : List SymbolId} {id : SymbolId}
    (h : (brain.memory.trie .onward).HasPath (context ++ [id])) :
    ∃ node, brain.memory.find? .onward context = some node ∧ node.children ≠ #[] := by
  obtain ⟨node, hnode, hpath⟩ := Trie.hasPath_append.mp h
  exact ⟨node, hnode, Trie.children_ne_empty hpath⟩

/-- However far a reply of two numbers at least has been grown onward, something follows its end. -/
theorem Knows.exists_follower (h : brain.Knows learned) {said front : List SymbolId}
    (hsaid : brain.Repeats learned said) (hlong : 2 ≤ said.length) (hfront : front <+: said)
    (hsome : front ≠ []) :
    ∃ id, (brain.memory.trie .onward).HasPath (front.drop (front.length - order) ++ [id]) := by
  rcases List.eq_nil_or_concat' front with hnone | ⟨before, b, rfl⟩
  · exact absurd hnone hsome
  · rcases List.eq_nil_or_concat' before with rfl | ⟨before, a, rfl⟩
    · -- The first number goes on to the second, which is the end of no text.
      obtain ⟨rest, rfl⟩ := hfront
      cases rest with
      | nil => exact absurd hlong (by simp)
      | cons next rest =>
        have hpair : [b, next] <:+: [] ++ [b] ++ next :: rest := ⟨[], rest, by simp⟩
        obtain ⟨hrun, hnext⟩ := hsaid.isRun_pair hpair
        obtain ⟨_, hpath⟩ := h.exists_next hrun hnext
        exact ⟨next, hpath.of_prefix ⟨_, rfl⟩⟩
    · have hcontext : (before ++ [a] ++ [b]).drop ((before ++ [a] ++ [b]).length - order) = [a, b] := by
        simp [order]
      have hpair : [a, b] <:+: said := by
        have hend : [a, b] <:+ before ++ [a] ++ [b] := ⟨before, by simp⟩
        exact hend.isInfix.trans hfront.isInfix
      obtain ⟨hrun, hb⟩ := hsaid.isRun_pair hpair
      obtain ⟨next, hpath⟩ := h.exists_next hrun hb
      rw [hcontext]
      exact ⟨next, hpath⟩

theorem endsSentence_iff {id : SymbolId} : brain.endsSentence id = true ↔
    ∃ symbol, brain.lexicon.symbol? id = some symbol ∧ symbol.endsSentence = true := by
  rw [endsSentence, Option.any_eq_true]

private theorem opens_of_run {source : String} (hsource : source ∈ learned) {ids : List SymbolId}
    (hspells : brain.lexicon.Spells ids (symbolsOf source)) (hlong : order < ids.length) {first : SymbolId}
    {symbol : Symbol} (hsymbol : brain.lexicon.symbol? first = some symbol)
    (hcases : [first] <+: ids ∨ ∃ mark, [mark, first] <:+: ids ∧ brain.endsSentence mark = true) :
    Opens learned symbol := by
  refine ⟨source, hsource, hspells.length_eq ▸ hlong, ?_⟩
  rcases hcases with hbeginning | ⟨mark, hrun, hends⟩
  · obtain ⟨part, hpart, hpartSpells⟩ := hspells.exists_prefix hbeginning
    rw [hpartSpells.unique_symbols (Lexicon.spells_singleton hsymbol)] at hpart
    exact Or.inl hpart
  · obtain ⟨ending, hending, hsentence⟩ := endsSentence_iff.mp hends
    obtain ⟨part, hpart, hpartSpells⟩ := hspells.exists_infix hrun
    have hpair : brain.lexicon.Spells [mark, first] [ending, symbol] :=
      Lexicon.spells_cons.mpr ⟨hending, Lexicon.spells_singleton hsymbol⟩
    rw [hpartSpells.unique_symbols hpair] at hpart
    exact Or.inr ⟨ending, hsentence, hpart⟩

/-- Where nothing precedes a reply, or a stop or the end of a sentence does, a text or a sentence begins. -/
theorem Knows.opens (h : brain.Knows learned) {first : SymbolId} {rest : List SymbolId}
    (hsaid : brain.Repeats learned (first :: rest))
    (hpath : rest = [] → (brain.memory.trie .onward).HasPath [first])
    {symbol : Symbol} (hsymbol : brain.lexicon.symbol? first = some symbol)
    (hend : (∃ later, (brain.pick .backward ((first :: rest).take order).reverse later).1 = none) ∨
      ∃ id, (brain.memory.trie .backward).HasPath (((first :: rest).take order).reverse ++ [id]) ∧
        (brain.isStop id = true ∨ brain.isStop id = false ∧ brain.endsSentence id = true)) :
    Opens learned symbol := by
  have hcontext (id : SymbolId)
      (hknown : (brain.memory.trie .backward).HasPath (((first :: rest).take order).reverse ++ [id]))
      (later : Dice) : (brain.pick .backward ((first :: rest).take order).reverse later).1 ≠ none := by
    obtain ⟨picked, last, hpick⟩ := exists_pick (h.sound.sorted .backward) hknown later
    rw [hpick]
    exact Option.some_ne_none picked
  rcases hend with ⟨later, hnone⟩ | ⟨id, hknown, hstop | ⟨hgoes, hends⟩⟩
  · cases rest with
    | nil =>
      -- Only the first number of a text has nothing before it.
      obtain ⟨more, hlength, hlonger⟩ := h.exists_longer (List.cons_ne_nil first []) (hpath rfl)
      obtain ⟨source, hsource, ids, hspells, hlong, front, back, happend⟩ :=
        h.isRun_onward (List.cons_ne_nil first more) hlonger
      rcases List.eq_nil_or_concat' front with rfl | ⟨before, previous, rfl⟩
      · have hbeginning : [first] <+: ids := ⟨more ++ back, by rw [← happend]; simp⟩
        exact opens_of_run hsource hspells hlong hsymbol (Or.inl hbeginning)
      · have hpair : [previous, first] <:+: ids := ⟨before, more ++ back, by rw [← happend]; simp⟩
        have hrun : brain.lexicon.IsRun source [previous, first] := ⟨ids, hspells, hlong, hpair⟩
        obtain ⟨_, hknown⟩ := h.exists_previous ⟨source, hsource, hrun⟩ (hsaid.goes first List.mem_cons_self)
        exact absurd hnone (hcontext previous (hknown.of_prefix ⟨_, rfl⟩) later)
    | cons second rest =>
      have hpair : [first, second] <:+: first :: second :: rest := ⟨[], rest, rfl⟩
      obtain ⟨hrun, hsecond⟩ := hsaid.isRun_pair hpair
      obtain ⟨previous, hknown⟩ := h.exists_previous hrun hsecond
      exact absurd hnone (hcontext previous hknown later)
  · have hlength := h.length_of_stop hknown (isStop_iff.mp hstop)
    cases rest with
    | nil => exact absurd hlength (by simp [order])
    | cons second rest =>
      obtain ⟨source, hsource, hteaches⟩ := (h.paths .backward _ (List.cons_ne_nil _ _)).mp hknown
      obtain ⟨ids, stop, hspells, _, hnew⟩ := (Lexicon.teaches_iff_mem rfl).mp hteaches
      rcases Memory.mem_newPaths_backward.mp hnew with ⟨_, hlong, hopening⟩ | ⟨_, hrun, _⟩
      · have hopened : [second, first] ++ [id] = (ids.toList.take order).reverse ++ [stop] := hopening
        have hpair : [first, second] = ids.toList.take order :=
          List.reverse_injective (List.append_inj' hopened rfl).1
        have htake : ids.toList.take order <+: ids.toList := List.take_prefix order ids.toList
        rw [← hpair] at htake
        have hbeginning : [first] <+: ids.toList := List.IsPrefix.trans ⟨[second], rfl⟩ htake
        exact opens_of_run hsource hspells hlong hsymbol (Or.inl hbeginning)
      · -- A run does not go on after the stop.
        have hmore : [] ++ id :: [first, second] <:+: ids.toList := hrun
        exact absurd (Lexicon.eq_nil_of_run_stop hspells hmore (isStop_iff.mp hstop)) (by simp)
  · obtain ⟨source, hsource, ids, hspells, hlong, hrun⟩ := h.isRun_backward hknown hgoes
    rw [List.reverse_reverse] at hrun
    have hpair : [id, first] <+: id :: (first :: rest).take order := ⟨rest.take 1, by simp [order]⟩
    exact opens_of_run hsource hspells hlong hsymbol (Or.inr ⟨id, hpair.isInfix.trans hrun, hends⟩)

/-- Where a reply is followed by nothing, by a stop, or by nothing more after a sentence, it closes. -/
theorem Knows.closes (h : brain.Knows learned) {said : List SymbolId}
    (hsaid : brain.Repeats learned said) (hlong : 2 ≤ said.length) {symbols : List Symbol}
    (hspells : brain.lexicon.Spells said symbols)
    (hend : (∃ later, (brain.pick .onward (said.drop (said.length - order)) later).1 = none) ∨
      (∃ id, (brain.memory.trie .onward).HasPath (said.drop (said.length - order) ++ [id]) ∧
        brain.isStop id = true) ∨
      softLimit ≤ said.length ∧ ∃ front id, said = front ++ [id] ∧ brain.endsSentence id = true) :
    Closes learned symbols := by
  rcases hend with ⟨later, hnone⟩ | ⟨id, hpath, hstop⟩ | ⟨hmany, front, id, rfl, hends⟩
  · have hsome : said ≠ [] := List.ne_nil_of_length_pos (Nat.lt_of_lt_of_le Nat.zero_lt_two hlong)
    obtain ⟨id, hpath⟩ := h.exists_follower hsaid hlong (List.prefix_refl said) hsome
    obtain ⟨picked, last, hpick⟩ := exists_pick (h.sound.sorted .onward) hpath later
    rw [hpick] at hnone
    exact absurd hnone (Option.some_ne_none picked)
  · obtain ⟨source, hsource, ids, hsourceSpells, _, front, back, happend⟩ :=
      h.isRun_onward (List.concat_ne_nil id _) hpath
    have hend : (front ++ said.drop (said.length - order)) ++ id :: back = ids := by
      rw [← happend]
      simp
    have hback := Lexicon.eq_nil_of_spells_stop (hend ▸ hsourceSpells) (isStop_iff.mp hstop)
    have htail : said.drop (said.length - order) ++ [id] <:+ ids := ⟨front, by rw [← hend, hback]; simp⟩
    obtain ⟨part, hpart, hpartSpells⟩ := hsourceSpells.exists_suffix htail
    obtain ⟨ending, hending, hendingSpells⟩ :=
      hspells.exists_suffix (List.drop_suffix (said.length - order) said)
    have hwhole := hendingSpells.append (Lexicon.spells_singleton (isStop_iff.mp hstop))
    rw [hpartSpells.unique_symbols hwhole] at hpart
    have hlength : ending.length = 2 := by
      rw [← hendingSpells.length_eq, List.length_drop]
      exact Nat.sub_sub_self hlong
    match ending, hlength with
    | [a, b], _ => exact Or.inr ⟨source, hsource, a, b, hending, hpart⟩
  · obtain ⟨mark, hmark, hsentence⟩ := endsSentence_iff.mp hends
    obtain ⟨before, last, rfl, _, hlast⟩ := Lexicon.spells_append_left.mp hspells
    rw [hlast.unique_symbols (Lexicon.spells_singleton hmark)]
    refine Or.inl ⟨?_, mark, by simp, hsentence⟩
    have hlength := hspells.length_eq
    rw [hlast.unique_symbols (Lexicon.spells_singleton hmark)] at hlength
    exact hlength ▸ hmany

/-- What a reply is made of opens and closes as learned texts and their sentences do, or fills the hard
limit. -/
theorem Knows.opens_closes_compose (h : brain.Knows learned) {ids : Array SymbolId} {dice : Dice}
    {symbols : List Symbol} (hspells : brain.lexicon.Spells (brain.compose ids dice).1 symbols)
    (hlong : 2 ≤ (brain.compose ids dice).1.length) :
    symbols.length = hardLimit ∨
      (∃ first ∈ symbols.head?, Opens learned first) ∧ Closes learned symbols := by
  rcases compose_cases h.sound.sorted ids dice with
    hnone | ⟨seed, opened, middle, last, hlength, hsome, hpath, hopened, hcompose⟩
  · rw [hnone] at hlong
    exact absurd hlong (by simp)
  · have hseed := h.repeats_seed hlength hsome hpath
    have hopenedRepeats : brain.Repeats learned opened := hopened ▸ growBackward_induction h.sound.sorted
      (fun _ _ hsaid hpath hid => h.repeats_front hsaid hpath hid) (hardLimit - seed.length) hseed middle
    have hgrownRepeats : brain.Repeats learned (brain.compose ids dice).1 :=
      hcompose ▸ growOnward_induction h.sound.sorted
        (fun _ _ hsaid hpath hid => h.repeats_back hsaid hpath hid) (hardLimit - opened.length)
        hopenedRepeats last
    have hroom := length_growBackward_le brain (hardLimit - seed.length) seed middle
    rw [← hopened] at hroom
    have hseedRoom : seed.length ≤ hardLimit := Nat.le_trans hlength (by decide)
    have hfront : opened <+: (brain.compose ids dice).1 := by
      rw [hcompose]
      exact growOnward_induction (motive := (opened <+: ·)) h.sound.sorted
        (fun _ id hsaid _ _ => hsaid.trans (List.prefix_append _ [id])) _ (List.prefix_refl opened) last
    have hback : seed <:+ opened := by
      rw [hopened]
      exact growBackward_induction (motive := (seed <:+ ·)) h.sound.sorted
        (fun _ id hsaid _ _ => hsaid.trans (List.suffix_cons id _)) _ (List.suffix_refl seed) middle
    have hopenedEnds := growBackward_ends h.sound.sorted (hardLimit - seed.length) seed middle
    have hgrownEnds := growOnward_ends h.sound.sorted (hardLimit - opened.length) opened last
    rw [← hopened] at hopenedEnds
    rw [← hcompose] at hgrownEnds
    have hsize := hspells.length_eq
    rcases hopenedEnds with hfull | hstart
    · -- A reply that fills the room backward is not grown onward.
      rw [hcompose, hfull, Nat.add_sub_of_le hseedRoom, Nat.sub_self, growOnward, hfull] at hsize
      exact Or.inl (by omega)
    · rcases hgrownEnds with hfull | hend
      · exact Or.inl (by omega)
      · refine Or.inr ⟨?_, h.closes hgrownRepeats hlong hspells hend⟩
        cases hfirst : opened with
        | nil =>
          rw [hfirst, List.suffix_nil] at hback
          exact absurd hback hsome
        | cons first rest =>
          rw [hfirst] at hfront hback hopenedRepeats hstart
          obtain ⟨tail, htail⟩ := hfront
          rw [← htail, List.cons_append] at hspells
          cases symbols with
          | nil => exact absurd hspells.length_eq (by simp)
          | cons symbol symbols =>
            have hsymbol := (Lexicon.spells_cons.mp hspells).1
            refine ⟨symbol, rfl, h.opens hopenedRepeats ?_ hsymbol hstart⟩
            rintro rfl
            rcases List.suffix_cons_iff.mp hback with rfl | hnone
            · exact hpath
            · exact absurd (List.suffix_nil.mp hnone) hsome

theorem Knows.boundaries_of_reply (h : brain.Knows learned) {text : String} {dice : Dice} {reply : Reply}
    (hreply : (brain.reply text dice).1 = .ok reply) (hsome : reply.said ≠ []) :
    (reply.said.length = hardLimit ∨
      (∃ first ∈ reply.said.head?, Opens learned first) ∧ Closes learned reply.said) ∧
    ∃ ids, brain.lexicon.Spells ids reply.said ∧ ∀ front, front <+: ids → front ≠ [] →
      ∃ node, brain.memory.find? .onward (front.drop (front.length - order)) = some node ∧
        node.children ≠ #[] := by
  obtain ⟨reader, ids, hkeeps, hlong, hrepeats, hspells⟩ := h.repeats_of_reply hreply hsome
  have hreader := h.keeps hkeeps
  refine ⟨hreader.opens_closes_compose hspells hlong, (reader.compose ids dice).1, ?_, ?_⟩
  · have hlisted := forall_mem_compose hreader.sound.sorted
      (hkeeps.2 ▸ h.sound.listed) ids dice
    obtain ⟨symbols, hsymbols⟩ := Lexicon.exists_spells hlisted
    rw [hspells.unique_symbols (hsymbols.of_growsTo hkeeps.1)]
    exact hsymbols
  · intro front hfront hfrontSome
    obtain ⟨_, hpath⟩ := hreader.exists_follower hrepeats hlong hfront hfrontSome
    rw [hkeeps.2] at hpath
    exact exists_node hpath

end Brain

namespace Conversation

/-- Whatever happened in a conversation that started from nothing, a reply in it that says anything has a
hundred symbols, or begins where a learned text or a sentence in one begins, and ends where a learned text
ends, or with a sentence if it has 25 symbols at least. However far the numbers that spell it have been grown
onward, the memory knows their last two, or the only one, and what may follow. -/
theorem reply_run_boundaries (dice : Dice) (events : List Event) (text : String) (later : Dice)
    (reply : Reply)
    (hreply : (((Conversation.start .empty dice).run events).brain.reply text later).1 = .ok reply)
    (hsome : reply.said ≠ []) :
    let talk := (Conversation.start .empty dice).run events
    (reply.said.length = 100 ∨
      (∃ first ∈ reply.said.head?, Opens talk.learned first) ∧ Closes talk.learned reply.said) ∧
    ∃ ids, talk.brain.lexicon.Spells ids reply.said ∧ ∀ front, front <+: ids → front ≠ [] →
      ∃ node, talk.brain.memory.find? .onward (front.drop (front.length - 2)) = some node ∧
        node.children ≠ #[] :=
  (knows_run dice events).boundaries_of_reply hreply hsome

theorem reply_run_boundaries_sentence :
    let talk := (Conversation.start .empty (.mixed 1)).run [.learn "Oh! I see it.", .reply "you see", .learn "a"]
    let reply : Reply := ⟨[.word "SEE"], [.word "I", .word "SEE", .word "IT", .mark .period]⟩
    (talk.brain.reply "see" (.evenlySpaced 0 0)).1 = .ok reply ∧ reply.said ≠ [] ∧
      Opens talk.learned (.word "I") ∧ Closes talk.learned reply.said := by
  intro talk reply
  have hreply : (talk.brain.reply "see" (.evenlySpaced 0 0)).1 = .ok reply := by decide +kernel
  have hsome : reply.said ≠ [] := List.cons_ne_nil _ _
  obtain ⟨hfull | ⟨⟨first, hfirst, hopens⟩, hcloses⟩, _⟩ :=
    reply_run_boundaries (.mixed 1) _ "see" _ reply hreply hsome
  · exact absurd hfull (by decide)
  · obtain rfl : .word "I" = first := Option.some.inj hfirst
    exact ⟨hreply, hsome, hopens, hcloses⟩

end Conversation

end Banter
