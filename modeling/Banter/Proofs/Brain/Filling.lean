import Banter.Proofs.Brain.Knowledge
import Banter.Proofs.Lexicon.Room
import Banter.Proofs.Reply.Heeding

/-!
# Taking in a text

Learning a text and replying to it fail only while its symbols are entered, since a text that has paths to
learn brings the stop along. So the room in the lexicon alone decides what becomes of a brain.
-/

namespace Banter.Brain

/-- A brain takes in a text as far as there is room for the symbols that are missing. If there is too little
room, the lexicon is full afterwards and the memory is as it was. -/
structure TakesIn (brain : Brain) (text : String) (outcome : Except Fault Unit × Brain) : Prop where
  fails_iff : (∃ fault, outcome.1 = .error fault) ↔
    65536 - brain.lexicon.size < (brain.lexicon.missing (symbolsOf text)).length
  fault : ∀ fault, outcome.1 = .error fault → fault = .full 65536
  listed : outcome.1 = .ok () → outcome.2.lexicon.symbols.toList =
    brain.lexicon.symbols.toList ++ brain.lexicon.missing (symbolsOf text)
  filled : ∀ fault, outcome.1 = .error fault →
    outcome.2.lexicon.symbols.toList = brain.lexicon.symbols.toList ++
      (brain.lexicon.missing (symbolsOf text)).take (65536 - brain.lexicon.size) ∧
    outcome.2.lexicon.size = 65536
  memory : ∀ fault, outcome.1 = .error fault → outcome.2.memory = brain.memory
  kept : ∀ id symbol, brain.lexicon.symbol? id = some symbol → outcome.2.lexicon.symbol? id = some symbol

theorem TakesIn.ok_iff {brain : Brain} {text : String} {outcome : Except Fault Unit × Brain}
    (h : brain.TakesIn text outcome) : outcome.1 = .ok () ↔
      (brain.lexicon.missing (symbolsOf text)).length ≤ 65536 - brain.lexicon.size := by
  rw [← Nat.not_lt, ← h.fails_iff]
  cases outcome.1 <;> simp

/-- A text whose symbols are known, apart from the stop, is taken in unless there is no number for the
stop. -/
theorem TakesIn.ok_iff_of_known {brain : Brain} {text : String} {outcome : Except Fault Unit × Brain}
    (h : brain.TakesIn text outcome)
    (hknown : ∀ symbol ∈ symbolsOf text, symbol ≠ .stop → symbol ∈ brain.lexicon.symbols) :
    outcome.1 = .ok () ↔ text = "" ∨ .stop ∈ brain.lexicon.symbols ∨ brain.lexicon.size < 65536 := by
  rw [h.ok_iff]
  rcases symbolsOf_cases text with hnone | ⟨front, hfront, hnot⟩
  · rw [hnone]
    simp [symbolsOf_eq_nil_iff.mp hnone, Lexicon.missing]
  · have htext : text ≠ "" := by
      rw [ne_eq, ← symbolsOf_eq_nil_iff, hfront]
      exact List.concat_ne_nil _ _
    have hwithin : ∀ symbol ∈ front, symbol ∈ brain.lexicon.symbols.toList := by
      intro symbol hsymbol
      have hmem : symbol ∈ symbolsOf text := by
        rw [hfront]
        exact List.mem_append_left _ hsymbol
      exact Array.mem_toList_iff.mpr (hknown symbol hmem fun hstop => hnot (hstop ▸ hsymbol))
    rw [hfront, Lexicon.missing_append_of_mem hwithin]
    by_cases hstop : .stop ∈ brain.lexicon.symbols
    · rw [Lexicon.missing_cons_of_mem (Array.mem_toList_iff.mpr hstop)]
      simp [hstop, Lexicon.missing]
    · rw [Lexicon.missing_eq_self (by simp) (by simpa using hstop), List.length_singleton]
      simp only [htext, hstop, false_or]
      omega

theorem read_cases (brain : Brain) (text : String) : ∃ reader, reader.memory = brain.memory ∧
    (((brain.lexicon.missing (symbolsOf text)).length ≤ 65536 - brain.lexicon.size ∧
      (∃ ids, brain.read text = (.ok ids, reader)) ∧ reader.lexicon.symbols.toList =
        brain.lexicon.symbols.toList ++ brain.lexicon.missing (symbolsOf text)) ∨
    (65536 - brain.lexicon.size < (brain.lexicon.missing (symbolsOf text)).length ∧
      brain.read text = (.error (.full 65536), reader) ∧ reader.lexicon.symbols.toList =
        brain.lexicon.symbols.toList ++
          (brain.lexicon.missing (symbolsOf text)).take (65536 - brain.lexicon.size))) := by
  cases brain with
  | mk lexicon memory =>
    obtain ⟨newer, ⟨hroom, ⟨ids, hids⟩, hnewer⟩ | ⟨hroom, hfault, hnewer⟩⟩ :=
      lexicon.enterOnto_cases #[] (symbolsOf text)
    · refine ⟨⟨newer, memory⟩, rfl, Or.inl ⟨hroom, ⟨ids, ?_⟩, hnewer⟩⟩
      rw [read, Lexicon.enterAll, hids]
    · refine ⟨⟨newer, memory⟩, rfl, Or.inr ⟨hroom, ?_, hnewer⟩⟩
      rw [read, Lexicon.enterAll, hfault]
      rfl

/-- Numbers that spell a text can be studied, since there is a number for the stop if they are enough. -/
theorem study_of_spells {brain : Brain} {ids : Array SymbolId} {text : String}
    (h : brain.lexicon.Spells ids.toList (symbolsOf text)) :
    ∃ memory, brain.study ids = (.ok (), ⟨brain.lexicon, memory⟩) := by
  obtain ⟨stop, hstop⟩ := Lexicon.exists_stop h
  unfold study
  split
  next => exact ⟨brain.memory, rfl⟩
  next hlong =>
    rw [enterStop_of_symbol? (hstop (by omega))]
    exact ⟨brain.memory.learn order ids stop, rfl⟩

theorem takesIn_learn (brain : Brain) (text : String) : brain.TakesIn text (brain.learn text) := by
  have hgrows := (brain.keeps_read text).1
  obtain ⟨reader, hmemory, ⟨hroom, ⟨ids, hread⟩, hreader⟩ | ⟨hroom, hread, hreader⟩⟩ := brain.read_cases text
  · rw [hread] at hgrows
    obtain ⟨learned, hstudy⟩ := study_of_spells (spells_of_read hread)
    have hlearn : brain.learn text = (.ok (), ⟨reader.lexicon, learned⟩) := by
      rw [learn, hread]
      exact hstudy
    rw [hlearn]
    exact {
      fails_iff := by simpa using hroom
      fault := by simp
      listed := fun _ => hreader
      filled := by simp
      memory := by simp
      kept := fun _ _ hid => hgrows.symbol? hid }
  · rw [hread] at hgrows
    have hlearn : brain.learn text = (.error (.full 65536), reader) := by
      rw [learn, hread]
    have hsize : reader.lexicon.size = 65536 := by
      have hbound : brain.lexicon.size ≤ 65536 := brain.lexicon.size_le
      rw [Lexicon.size_eq_length, hreader, List.length_append, List.length_take, ← Lexicon.size_eq_length]
      omega
    rw [hlearn]
    exact {
      fails_iff := by simpa using hroom
      fault := fun _ hfault => (Except.error.inj hfault).symm
      listed := by simp
      filled := fun _ _ => ⟨hreader, hsize⟩
      memory := fun _ _ => hmemory
      kept := fun _ _ hid => hgrows.symbol? hid }

/-- A reply that does what learning does takes the text in as learning does, and draws nothing where it
fails. -/
theorem takesIn_heed {brain : Brain} {text : String} {dice : Dice}
    (h : brain.heed text dice = brain.learn text) : brain.TakesIn text (brain.heed text dice) ∧
      ∀ fault, (brain.reply text dice).1 = .error fault → (brain.reply text dice).2.2 = dice := by
  constructor
  · rw [h]
    exact brain.takesIn_learn text
  · intro fault hfault
    obtain ⟨reader, _, ⟨_, ⟨ids, hread⟩, _⟩ | ⟨_, hread, _⟩⟩ := brain.read_cases text
    · obtain ⟨learned, hstudy⟩ := study_of_spells (spells_of_read hread)
      rw [fault_of_reply_iff, h, learn, hread] at hfault
      simp only [hstudy] at hfault
      exact absurd hfault (by simp)
    · unfold reply
      rw [hread]

/-- A brain that knows texts and nothing else does the same in replying to a text and in learning it, since
it has the stop as soon as there is anything to say. -/
theorem Knows.heed_eq_learn {brain : Brain} {learned : List String} (h : brain.Knows learned) (text : String)
    (dice : Dice) : brain.heed text dice = brain.learn text := by
  apply h.sound.heed_eq_learn
  by_cases hnone : brain.memory.onward.children = #[]
  · exact Or.inr (Or.inr hnone)
  · exact Or.inr (Or.inl (h.exists_stop_of_children hnone))

end Banter.Brain
