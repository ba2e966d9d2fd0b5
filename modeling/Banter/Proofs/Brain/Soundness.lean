import Banter.Proofs.Brain.Steps
import Banter.Proofs.Reply.Growth

/-!
# Sound brains

In a sound brain the tries stand in order, no path has more numbers than are learned at a time, and each
number on a path stands for a symbol. Learning and replying keep a brain sound. What a sound brain composes
can be put into symbols, so that a reply fails only for want of room.
-/

namespace Banter.Brain

/-- What all steps rely on and keep, whatever the brain was before. -/
structure IsSound (brain : Brain) : Prop where
  sorted : ∀ direction, (brain.memory.trie direction).isSorted = true
  shallow : ∀ direction path, (brain.memory.trie direction).HasPath path → path.length ≤ order + 1
  listed : ∀ direction path, (brain.memory.trie direction).HasPath path →
    ∀ id ∈ path, id.toNat < brain.lexicon.size

theorem trie_empty (direction : Direction) : empty.memory.trie direction = .leaf 0 := by
  cases direction <;> rfl

theorem isSound_empty : IsSound empty where
  sorted direction := by
    rw [trie_empty]
    exact Trie.isSorted_leaf 0
  shallow direction path hpath := by
    rw [trie_empty, Trie.hasPath_leaf] at hpath
    rw [hpath]
    exact Nat.zero_le _
  listed direction path hpath := by
    rw [trie_empty, Trie.hasPath_leaf] at hpath
    simp [hpath]

theorem IsSound.keeps {older newer : Brain} (h : older.IsSound) (hkeeps : older.Keeps newer) :
    newer.IsSound := by
  obtain ⟨hgrows, hmemory⟩ := hkeeps
  have hsize := hgrows.size_le_size
  refine ⟨?_, ?_, ?_⟩ <;> rw [hmemory]
  · exact h.sorted
  · exact h.shallow
  · intro direction path hpath id hid
    exact Nat.lt_of_lt_of_le (h.listed direction path hpath id hid) hsize

theorem IsSound.learns {older newer : Brain} {text : String} (h : older.IsSound)
    (hlearns : older.Learns text newer) : newer.IsSound := by
  obtain ⟨hgrows, ids, stop, hspells, hstop, hmemory⟩ := hlearns
  have hsize := hgrows.size_le_size
  refine ⟨?_, ?_, ?_⟩ <;> rw [hmemory]
  · intro direction
    exact Memory.isSorted_learn (h.sorted direction) order ids stop
  · intro direction path hpath
    rcases (Memory.hasPath_learn (h.sorted direction)).mp hpath with hpath | ⟨new, hnew, hleads⟩
    · exact h.shallow direction path hpath
    · rw [← Memory.length_of_mem_newPaths hnew]
      exact hleads.length_le
  · intro direction path hpath id hid
    rcases (Memory.hasPath_learn (h.sorted direction)).mp hpath with hpath | ⟨new, hnew, hleads⟩
    · exact Nat.lt_of_lt_of_le (h.listed direction path hpath id hid) hsize
    · rcases Memory.mem_of_mem_newPaths hnew (hleads.subset hid) with hid | rfl
      · exact hspells.lt_size hid
      · exact Lexicon.lt_size (hstop (Memory.size_of_mem_newPaths hnew))

theorem isSound_learn {brain : Brain} (h : brain.IsSound) (text : String) :
    (brain.learn text).2.IsSound := by
  obtain ⟨newer, ⟨hlearn, hlearns⟩ | ⟨hlearn, hkeeps⟩⟩ := brain.learn_cases text
  · rw [hlearn]
    exact h.learns hlearns
  · rw [hlearn]
    exact h.keeps hkeeps

/-- Each number that is composed stands for a symbol. -/
theorem IsSound.listed_compose {brain : Brain} (h : brain.IsSound) (ids : Array SymbolId) (dice : Dice) :
    ∀ id ∈ (brain.compose ids dice).1, id.toNat < brain.lexicon.size :=
  forall_mem_compose h.sorted h.listed ids dice

theorem mapM_symbolOf_of_spells {lexicon : Lexicon} {ids : List SymbolId} {symbols : List Symbol}
    (h : lexicon.Spells ids symbols) : ids.mapM lexicon.symbolOf = .ok symbols := by
  induction ids generalizing symbols with
  | nil =>
    obtain rfl := List.length_eq_zero_iff.mp h.length_eq.symm
    rfl
  | cons id ids ih =>
    cases symbols with
    | nil => exact absurd h.length_eq (by simp)
    | cons symbol symbols =>
      obtain ⟨hid, hids⟩ := Lexicon.spells_cons.mp h
      have hsymbol : lexicon.symbolOf id = .ok symbol := by rw [Lexicon.symbolOf, hid]
      rw [List.mapM_cons, hsymbol, ih hids]
      rfl

theorem symbolsOfIds_of_spells {brain : Brain} {ids : List SymbolId} {symbols : List Symbol}
    (h : brain.lexicon.Spells ids symbols) :
    brain.symbolsOfIds ids = .ok (symbols.filter (!·.isStop)) := by
  rw [symbolsOfIds, mapM_symbolOf_of_spells h]
  rfl

/-- What replying to a text can do in a sound brain: fail for want of room, or learn the text and give what
was heard and what was composed, without the stop. -/
theorem IsSound.reply_cases {brain : Brain} (h : brain.IsSound) (text : String) (dice : Dice) :
    ∃ newer later,
      (brain.reply text dice = (.error (.full Lexicon.capacity), newer, later) ∧ brain.Keeps newer) ∨
      ∃ reader ids symbols, brain.Keeps reader ∧ reader.Learns text newer ∧
        reader.lexicon.Spells (reader.compose ids dice).1 symbols ∧
        brain.reply text dice =
          (.ok ⟨(symbolsOf text).filter (!·.isStop), symbols.filter (!·.isStop)⟩, newer, later) := by
  obtain ⟨newer, later, hfull | ⟨reader, ids, hread, hlearns, hreply⟩⟩ := brain.reply_cases text dice
  · exact ⟨newer, later, Or.inl hfull⟩
  · have hkeeps := brain.keeps_read text
    rw [hread] at hkeeps
    have hheard := (spells_of_read hread).of_growsTo hlearns.1
    obtain ⟨symbols, hsaid⟩ := Lexicon.exists_spells ((h.keeps hkeeps).listed_compose ids dice)
    refine ⟨newer, later, Or.inr ⟨reader, ids, symbols, hkeeps, hlearns, hsaid, ?_⟩⟩
    rw [hreply, replyOfIds, symbolsOfIds_of_spells hheard,
      symbolsOfIds_of_spells (hsaid.of_growsTo hlearns.1)]
    rfl

theorem isSound_reply {brain : Brain} (h : brain.IsSound) (text : String) (dice : Dice) :
    (brain.reply text dice).2.1.IsSound := by
  obtain ⟨newer, later, ⟨hreply, hkeeps⟩ | ⟨reader, _, _, hkeeps, hlearns, _, hreply⟩⟩ :=
    h.reply_cases text dice
  · rw [hreply]
    exact h.keeps hkeeps
  · rw [hreply]
    exact h.learns (hkeeps.learns hlearns)

end Banter.Brain
