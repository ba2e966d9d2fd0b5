import Banter.Proofs.Brain.Filling
import Banter.Proofs.Conversation.Learned
import Banter.Proofs.Conversation.Teaching
import Banter.Proofs.Reading.Words

/-!
# Conversations that run out of numbers

Whether a text is taken in, and how far, depends on the room in the lexicon alone, whatever happened before.
A text whose symbols are known still needs a number for the stop. So one text with enough symbols can leave
an empty brain with a full lexicon and no stop, and then no text with characters is taken in any more.
-/

namespace Banter

namespace Brain

/-- Learning too many numbered words first leaves a lexicon that is full of them. -/
theorem learn_crowd {count : Nat} (h : 65536 ≤ count) :
    (Brain.empty.learn (crowd count)).2.lexicon.symbols.toList = crowdSymbols 65536 := by
  have hcount : 0 < count := Nat.lt_of_lt_of_le (by decide) h
  have htakes := Brain.empty.takesIn_learn (crowd count)
  have hnone : Brain.empty.lexicon.symbols.toList = [] := rfl
  have hsize : Brain.empty.lexicon.size = 0 := rfl
  have hmissing : Brain.empty.lexicon.missing (symbolsOf (crowd count)) = symbolsOf (crowd count) :=
    Lexicon.missing_eq_self (nodup_symbolsOf_crowd hcount) (by simp [hnone])
  have hfails : ∃ fault, (Brain.empty.learn (crowd count)).1 = .error fault := by
    rw [htakes.fails_iff, hmissing, hsize, symbolsOf_crowd hcount, List.length_append, length_crowdSymbols]
    exact Nat.lt_succ_of_le h
  obtain ⟨fault, hfault⟩ := hfails
  rw [(htakes.filled fault hfault).1, hmissing, hnone, hsize, symbolsOf_crowd hcount, List.nil_append,
    Nat.sub_zero, List.take_append_of_le_length (by simpa using h), take_crowdSymbols h]

/-- A brain that learned too many numbered words first knows each of them and takes in none. -/
theorem full_of_learn_crowd {count i : Nat} (h : 65536 ≤ count) (hi : i < 65536) :
    let brain := (Brain.empty.learn (crowd count)).2
    (∀ symbol ∈ symbolsOf (numbered i), symbol ≠ .stop → symbol ∈ brain.lexicon.symbols) ∧
      ∀ outcome, brain.TakesIn (numbered i) outcome → outcome.1 = .error (.full 65536) := by
  intro brain
  have hsymbols : brain.lexicon.symbols.toList = crowdSymbols 65536 := learn_crowd h
  have hsize : brain.lexicon.size = 65536 := by
    rw [Lexicon.size_eq_length, hsymbols, length_crowdSymbols]
  have hstop : .stop ∉ brain.lexicon.symbols := by
    rw [← Array.mem_toList_iff, hsymbols]
    exact stop_not_mem_crowdSymbols 65536
  have hknown : ∀ symbol ∈ symbolsOf (numbered i), symbol ≠ .stop → symbol ∈ brain.lexicon.symbols := by
    rw [symbolsOf_numbered]
    intro symbol hsymbol hother
    rcases List.mem_cons.mp hsymbol with rfl | hlast
    · rw [← Array.mem_toList_iff, hsymbols]
      exact mem_crowdSymbols hi
    · exact absurd (List.mem_singleton.mp hlast) hother
  refine ⟨hknown, ?_⟩
  intro outcome htakes
  have hfails : ¬outcome.1 = .ok () := by
    rw [htakes.ok_iff_of_known hknown]
    simp [numbered_ne_empty, hstop, hsize]
  cases hresult : outcome.1 with
  | ok _ => exact absurd hresult hfails
  | error fault => rw [htakes.fault fault hresult]

end Brain

namespace Conversation

/-- In a conversation that starts from nothing or from any file that can be read, learning a text and
replying to it take it in as far as there is room, and a reply that fails draws nothing. After a file, a
reply to the empty text is left out, since it may be the first to need the stop. -/
theorem run_takesIn (start : Brain)
    (hstart : start = .empty ∨ ∃ bytes, BrainFile.decode bytes = .ok start) (dice : Dice)
    (events : List Event) (text : String) :
    let brain := ((Conversation.start start dice).run events).brain
    brain.TakesIn text (brain.learn text) ∧
      (text ≠ "" ∨ start = .empty → ∀ later, brain.TakesIn text (brain.heed text later) ∧
        ∀ fault, (brain.reply text later).1 = .error fault → (brain.reply text later).2.2 = later) := by
  intro brain
  refine ⟨brain.takesIn_learn text, ?_⟩
  intro hends later
  apply Brain.takesIn_heed
  rcases hends with hsome | rfl
  · exact (isSound_run hstart dice events).heed_eq_learn later (Or.inl hsome)
  · exact (knows_run dice events).heed_eq_learn text later

theorem run_takesIn_greeting :
    let bytes : List UInt8 := [2, 0, 0, 0, 2, 0, 0, 1, 0, 1, 0, 1, 0, 0, 0, 0, 0, 0, 0, 0, 0]
    let events : List Event := [.train [46, 46, 10, 255], .reply "see. it"]
    ∃ start, BrainFile.decode bytes = .ok start ∧
      let brain := ((Conversation.start start (.mixed 7)).run events).brain
      brain.TakesIn "see you" (brain.learn "see you") ∧
        brain.TakesIn "see you" (brain.heed "see you" (.mixed 3)) := by
  intro bytes events
  have hread : ∃ start, BrainFile.decode bytes = .ok start := ⟨_, rfl⟩
  obtain ⟨start, hstart⟩ := hread
  have htakes := run_takesIn start (Or.inr ⟨bytes, hstart⟩) (.mixed 7) events "see you"
  exact ⟨start, hstart, htakes.1, (htakes.2 (Or.inl (by decide)) (.mixed 3)).1⟩

/-- In a conversation that starts from nothing, a text whose symbols are known, apart from the stop, is
learned and replied to unless the lexicon is full without the stop. The stop is there once a text with
characters was learned. -/
theorem run_takes_known (dice : Dice) (events : List Event) (text : String)
    (hknown : ∀ symbol ∈ symbolsOf text, symbol ≠ .stop →
      symbol ∈ ((Conversation.start .empty dice).run events).brain.lexicon.symbols) :
    let talk := (Conversation.start .empty dice).run events
    let lexicon := talk.brain.lexicon
    ((talk.brain.learn text).1 = .ok () ↔
        text = "" ∨ .stop ∈ lexicon.symbols ∨ lexicon.size < 65536) ∧
      (∀ later, (∃ reply, (talk.brain.reply text later).1 = .ok reply) ↔
        text = "" ∨ .stop ∈ lexicon.symbols ∨ lexicon.size < 65536) ∧
      ((∃ heard ∈ talk.learned, heard ≠ "") → .stop ∈ lexicon.symbols) := by
  intro talk lexicon
  have hknows : talk.brain.Knows talk.learned := knows_run dice events
  have hlearn := (talk.brain.takesIn_learn text).ok_iff_of_known hknown
  refine ⟨hlearn, ?_, ?_⟩
  · intro later
    rw [Brain.exists_reply_iff, hknows.heed_eq_learn, hlearn]
  · intro hexists
    obtain ⟨heard, hheard, hsome⟩ := hexists
    exact Lexicon.mem_symbols_iff.mpr (hknows.exists_stop hheard hsome)

theorem run_takes_known_words :
    let events : List Event := [.learn "see you later", .reply "you see"]
    let talk := (Conversation.start .empty (.mixed 7)).run events
    let text := "later you"
    (∀ symbol ∈ symbolsOf text, symbol ≠ .stop → symbol ∈ talk.brain.lexicon.symbols) ∧
      (talk.brain.learn text).1 = .ok () ∧ ∃ reply, (talk.brain.reply text (.mixed 3)).1 = .ok reply := by
  intro events talk text
  have hknown : ∀ symbol ∈ symbolsOf text, symbol ≠ .stop → symbol ∈ talk.brain.lexicon.symbols := by
    decide +kernel
  have hheard : ∃ heard ∈ talk.learned, heard ≠ "" := by
    decide +kernel
  obtain ⟨hlearn, hreply, hheld⟩ := run_takes_known (.mixed 7) events text hknown
  have hstop : .stop ∈ talk.brain.lexicon.symbols := hheld hheard
  refine ⟨hknown, hlearn.mpr ?_, (hreply (.mixed 3)).mpr ?_⟩
  · exact Or.inr (Or.inl hstop)
  · exact Or.inr (Or.inl hstop)

theorem brain_after_learn (talk : Conversation) (text : String) :
    (talk.after (.learn text)).brain = (talk.brain.learn text).2 := by
  obtain ⟨brain, dice, learned⟩ := talk
  rw [after]
  split
  next hlearn => rw [hlearn]
  next hlearn => rw [hlearn]

/-- After one text of too many words no word of it is learned or replied to any more. -/
theorem run_crowd_full {count i : Nat} (h : 65536 ≤ count) (hi : i < 65536) (dice : Dice) :
    let brain := ((Conversation.start .empty dice).run [.learn (crowd count)]).brain
    (∀ symbol ∈ symbolsOf (numbered i), symbol ≠ .stop → symbol ∈ brain.lexicon.symbols) ∧
      (brain.learn (numbered i)).1 = .error (.full 65536) ∧
      ∀ later, (brain.reply (numbered i) later).1 = .error (.full 65536) := by
  intro brain
  have hsound : brain.IsSound := isSound_run (Or.inl rfl) dice [.learn (crowd count)]
  have hbrain : brain = (Brain.empty.learn (crowd count)).2 :=
    brain_after_learn (.start .empty dice) (crowd count)
  obtain ⟨hknown, hfails⟩ := Brain.full_of_learn_crowd h hi
  rw [← hbrain] at hknown hfails
  refine ⟨hknown, hfails _ (brain.takesIn_learn (numbered i)), ?_⟩
  intro later
  rw [Brain.fault_of_reply_iff]
  have hheed := hsound.heed_eq_learn later (Or.inl (numbered_ne_empty i))
  exact hfails _ (Brain.takesIn_heed hheed).1

/-- A text of as many words as there are numbers leaves a brain that knows each word and takes in none. -/
theorem run_full_without_stop :
    let brain := ((Conversation.start .empty (.evenlySpaced 0 0)).run [.learn (crowd 65536)]).brain
    (∀ symbol ∈ symbolsOf "w3", symbol ≠ .stop → symbol ∈ brain.lexicon.symbols) ∧
      (brain.learn "w3").1 = .error (.full 65536) ∧
      (brain.reply "w3" (.evenlySpaced 0 0)).1 = .error (.full 65536) := by
  have htext : numbered 3 = "w3" := by decide +kernel
  have hfull := run_crowd_full (Nat.le_refl 65536) (show 3 < 65536 by decide) (.evenlySpaced 0 0)
  rw [htext] at hfull
  exact ⟨hfull.1, hfull.2.1, hfull.2.2 _⟩

end Conversation

end Banter
