import Banter.Proofs.Conversation.Learned

namespace Banter

namespace Brain

/-- Numbers whose runs, as long as the memory looks, all come from one of the learned texts each, and none of
which is the stop. -/
structure Repeats (brain : Brain) (learned : List String) (said : List SymbolId) : Prop where
  runs : ∀ run, run <:+: said → run.length ≤ order + 1 →
    ∃ source ∈ learned, brain.lexicon.IsRun source run
  goes : ∀ id ∈ said, brain.isStop id = false

theorem isStop_iff {brain : Brain} {id : SymbolId} :
    brain.isStop id = true ↔ brain.lexicon.symbol? id = some .stop := by
  unfold isStop
  cases brain.lexicon.symbol? id with
  | none => simp
  | some symbol => cases symbol <;> simp [Symbol.isStop]

variable {brain : Brain} {learned : List String}

theorem Knows.isRun_onward (h : brain.Knows learned) {path : List SymbolId} (hsome : path ≠ [])
    (hpath : (brain.memory.trie .onward).HasPath path) :
    ∃ source ∈ learned, brain.lexicon.IsRun source path := by
  obtain ⟨source, hsource, hteaches⟩ := (h.paths .onward path hsome).mp hpath
  exact ⟨source, hsource, hteaches.isRun_onward⟩

theorem Knows.isRun_backward (h : brain.Knows learned) {path : List SymbolId} {id : SymbolId}
    (hpath : (brain.memory.trie .backward).HasPath (path ++ [id])) (hid : brain.isStop id = false) :
    ∃ source ∈ learned, brain.lexicon.IsRun source (id :: path.reverse) := by
  obtain ⟨source, hsource, hteaches⟩ := (h.paths .backward _ (List.concat_ne_nil id path)).mp hpath
  have hsymbol : brain.lexicon.symbol? id ≠ some .stop := by
    rw [Ne, ← isStop_iff, hid]
    exact Bool.false_ne_true
  exact ⟨source, hsource, hteaches.isRun_backward hsymbol⟩

theorem Knows.isStop_of_length_lt (h : brain.Knows learned) {direction : Direction}
    {path : List SymbolId} {id : SymbolId}
    (hpath : (brain.memory.trie direction).HasPath (path ++ [id])) (hlength : path.length < order) :
    brain.isStop id = false := by
  by_cases hid : brain.isStop id = true
  · exact absurd (h.length_of_stop hpath (isStop_iff.mp hid)) (Nat.ne_of_lt hlength)
  · exact (Bool.not_eq_true _).mp hid

private theorem exists_isRun_of_infix {run whole : List SymbolId} (hrun : run <:+: whole)
    (h : ∃ source ∈ learned, brain.lexicon.IsRun source whole) :
    ∃ source ∈ learned, brain.lexicon.IsRun source run := by
  obtain ⟨source, hsource, ids, hspells, hlong, hwhole⟩ := h
  exact ⟨source, hsource, ids, hspells, hlong, hrun.trans hwhole⟩

/-- A seed repeats a text that was learned. -/
theorem Knows.repeats_seed (h : brain.Knows learned) {said : List SymbolId}
    (hlength : said.length ≤ order) (hsome : said ≠ [])
    (hpath : (brain.memory.trie .onward).HasPath said) : brain.Repeats learned said where
  runs run hrun _ := exists_isRun_of_infix hrun (h.isRun_onward hsome hpath)
  goes id hid := by
    obtain ⟨front, back, rfl⟩ := List.append_of_mem hid
    have hfront : (brain.memory.trie .onward).HasPath (front ++ [id]) :=
      hpath.of_prefix ⟨back, by simp⟩
    apply h.isStop_of_length_lt hfront
    rw [List.length_append, List.length_cons] at hlength
    omega

/-- A number added at the front makes the beginning a run of one text that was learned. -/
theorem Knows.repeats_front (h : brain.Knows learned) {said : List SymbolId} {id : SymbolId}
    (hsaid : brain.Repeats learned said)
    (hpath : (brain.memory.trie .backward).HasPath ((said.take order).reverse ++ [id]))
    (hid : brain.isStop id = false) : brain.Repeats learned (id :: said) where
  runs run hrun hlength := by
    rcases List.infix_cons_iff.mp hrun with hbeginning | hinside
    · have hwindow := h.isRun_backward hpath hid
      rw [List.reverse_reverse] at hwindow
      have hleads : run <+: id :: said.take order := by
        rw [← List.take_succ_cons]
        exact List.prefix_take_iff.mpr ⟨hbeginning, hlength⟩
      exact exists_isRun_of_infix hleads.isInfix hwindow
    · exact hsaid.runs run hinside hlength
  goes := List.forall_mem_cons.mpr ⟨hid, hsaid.goes⟩

/-- A number added at the back makes the end a run of one text that was learned. -/
theorem Knows.repeats_back (h : brain.Knows learned) {said : List SymbolId} {id : SymbolId}
    (hsaid : brain.Repeats learned said)
    (hpath : (brain.memory.trie .onward).HasPath (said.drop (said.length - order) ++ [id]))
    (hid : brain.isStop id = false) : brain.Repeats learned (said ++ [id]) where
  runs run hrun hlength := by
    rcases List.infix_concat_iff.mp hrun with hend | hinside
    · have hwindow := h.isRun_onward (List.concat_ne_nil id _) hpath
      have hwhole : said.drop (said.length - order) ++ [id] <:+ said ++ [id] := by
        obtain ⟨front, hfront⟩ := List.drop_suffix (said.length - order) said
        exact ⟨front, by rw [← List.append_assoc, hfront]⟩
      have hsuffix : run <:+ said.drop (said.length - order) ++ [id] := by
        by_cases hfits : run.length ≤ (said.drop (said.length - order) ++ [id]).length
        · exact List.suffix_of_suffix_length_le hend hwhole hfits
        · -- A run that does not fit would be longer than everything that is said.
          have hbound := hend.length_le
          simp only [List.length_append, List.length_drop, List.length_singleton] at hfits hbound
          omega
      exact exists_isRun_of_infix hsuffix.isInfix hwindow
    · exact hsaid.runs run hinside hlength
  goes := List.forall_mem_append.mpr ⟨hsaid.goes, List.forall_mem_singleton.mpr hid⟩

/-- A brain that knows texts composes nothing, or two numbers at least that repeat the texts. -/
theorem Knows.repeats_compose (h : brain.Knows learned) (ids : Array SymbolId) (dice : Dice) :
    (brain.compose ids dice).1 = [] ∨
      2 ≤ (brain.compose ids dice).1.length ∧ brain.Repeats learned (brain.compose ids dice).1 := by
  have hnext (id : SymbolId) (hpath : (brain.memory.trie .onward).HasPath [id]) :
      ∃ next, (brain.memory.trie .onward).HasPath [id, next] := by
    obtain ⟨more, hlength, hlonger⟩ := h.exists_longer (List.cons_ne_nil id []) hpath
    match more, hlength with
    | [next, last], _ => exact ⟨next, hlonger.of_prefix ⟨[last], rfl⟩⟩
  have hgoes (id next : SymbolId) (hpath : (brain.memory.trie .onward).HasPath [id, next]) :
      brain.isStop next = false :=
    @Knows.isStop_of_length_lt _ _ h .onward [id] next hpath Nat.one_lt_two
  rcases two_le_length_compose h.sound.sorted hnext hgoes ids dice with hnone | hlong
  · exact Or.inl hnone
  · rcases compose_induction h.sound.sorted
      (fun _ hlength hsome hpath => h.repeats_seed hlength hsome hpath)
      (fun _ _ hsaid hpath hid => h.repeats_front hsaid hpath hid)
      (fun _ _ hsaid hpath hid => h.repeats_back hsaid hpath hid) ids dice with hnone | hrepeats
    · exact Or.inl hnone
    · exact Or.inr ⟨hlong, hrepeats⟩

/-- Symbols that are spelled by numbers other than that of the stop are all said. -/
private theorem filter_eq_self_of_spells {ids : List SymbolId} {symbols : List Symbol}
    (hspells : brain.lexicon.Spells ids symbols) (hgoes : ∀ id ∈ ids, brain.isStop id = false) :
    symbols.filter (!·.isStop) = symbols := by
  rw [List.filter_eq_self]
  intro symbol hsymbol
  have hmem : some symbol ∈ ids.map brain.lexicon.symbol? := hspells ▸ List.mem_map_of_mem hsymbol
  obtain ⟨id, hid, hfound⟩ := List.mem_map.mp hmem
  have hgoesOn := hgoes id hid
  rw [isStop, hfound, Option.any_some] at hgoesOn
  rw [hgoesOn]
  rfl

/-- A reply that says anything says what was composed: two numbers at least that repeat the texts. -/
theorem Knows.repeats_of_reply (h : brain.Knows learned) {text : String} {dice : Dice} {reply : Reply}
    (hreply : (brain.reply text dice).1 = .ok reply) (hsome : reply.said ≠ []) :
    ∃ reader ids, brain.Keeps reader ∧ 2 ≤ (reader.compose ids dice).1.length ∧
      reader.Repeats learned (reader.compose ids dice).1 ∧
      reader.lexicon.Spells (reader.compose ids dice).1 reply.said := by
  obtain ⟨newer, later, ⟨hfull, _⟩ | ⟨reader, ids, symbols, hkeeps, _, hspells, hok⟩⟩ :=
    h.sound.reply_cases text dice
  · rw [hfull] at hreply
    exact absurd hreply (by simp)
  · rw [hok] at hreply
    obtain rfl := Except.ok.inj hreply
    have hreader := h.keeps hkeeps
    rcases hreader.repeats_compose ids dice with hnone | ⟨hlong, hrepeats⟩
    · rw [hnone] at hspells
      have hsilent : symbols = [] := List.length_eq_zero_iff.mp hspells.length_eq.symm
      rw [hsilent] at hsome
      exact absurd rfl hsome
    · rw [filter_eq_self_of_spells hspells hrepeats.goes]
      exact ⟨reader, ids, hkeeps, hlong, hrepeats, hspells⟩

theorem Knows.said_of_reply (h : brain.Knows learned) {text : String} {dice : Dice} {reply : Reply}
    (hreply : (brain.reply text dice).1 = .ok reply) (hsome : reply.said ≠ []) :
    2 ≤ reply.said.length ∧ ∀ run, run <:+: reply.said → run.length ≤ order + 1 →
      ∃ source ∈ learned, order + 1 ≤ (symbolsOf source).length ∧ run <:+: symbolsOf source := by
  obtain ⟨reader, ids, _, hlong, hrepeats, hspells⟩ := h.repeats_of_reply hreply hsome
  refine ⟨hspells.length_eq ▸ hlong, ?_⟩
  intro part hpart hlength
  obtain ⟨run, hrun, hrunSpells⟩ := hspells.exists_run hpart
  rw [← hrunSpells.length_eq] at hlength
  obtain ⟨source, hsource, others, hothers, hsize, hwithin⟩ := hrepeats.runs run hrun hlength
  obtain ⟨found, hfound, hfoundSpells⟩ := hothers.exists_infix hwithin
  rw [hrunSpells.unique_symbols hfoundSpells]
  exact ⟨source, hsource, hothers.length_eq ▸ hsize, hfound⟩

end Brain

namespace Conversation

/-- Whatever happened in a conversation that started from nothing, a reply in it that says anything says two
symbols at least, and any three symbols in a row, or fewer, stand in a row in one of the texts that were
learned and not forgotten. -/
theorem said_of_reply_run (dice : Dice) (events : List Event) (text : String) (later : Dice)
    (reply : Reply)
    (hreply : (((Conversation.start .empty dice).run events).brain.reply text later).1 = .ok reply)
    (hsome : reply.said ≠ []) :
    2 ≤ reply.said.length ∧ ∀ run, run <:+: reply.said → run.length ≤ 3 →
      ∃ source ∈ ((Conversation.start .empty dice).run events).learned,
        3 ≤ (symbolsOf source).length ∧ run <:+: symbolsOf source :=
  (knows_run dice events).said_of_reply hreply hsome

theorem said_of_reply_run_greeting :
    let talk := (Conversation.start .empty (.mixed 1)).run [.learn "Hi, you", .reply "you there", .learn "a"]
    let reply : Reply := ⟨[.word "HI"], [.word "HI", .mark .comma, .word "YOU"]⟩
    (talk.brain.reply "hi" (.evenlySpaced 0 0)).1 = .ok reply ∧ reply.said ≠ [] ∧
      ∃ source ∈ talk.learned, 3 ≤ (symbolsOf source).length ∧ reply.said <:+: symbolsOf source := by
  intro talk reply
  have hfound : (talk.brain.reply "hi" (.evenlySpaced 0 0)).1.toOption = some reply := by decide +kernel
  have hreply : (talk.brain.reply "hi" (.evenlySpaced 0 0)).1 = .ok reply := by
    cases hresult : (talk.brain.reply "hi" (.evenlySpaced 0 0)).1 with
    | error fault =>
      rw [hresult] at hfound
      exact absurd hfound (by simp [Except.toOption])
    | ok found =>
      rw [hresult] at hfound
      exact congrArg Except.ok (Option.some.inj hfound)
  have hsome : reply.said ≠ [] := List.cons_ne_nil _ _
  obtain ⟨_, hruns⟩ := said_of_reply_run (.mixed 1) _ "hi" _ reply hreply hsome
  exact ⟨hreply, hsome, hruns reply.said (List.infix_refl _) (Nat.le_refl 3)⟩

end Conversation

end Banter
