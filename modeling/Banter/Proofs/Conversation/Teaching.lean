import Banter.Proofs.BrainFile.Decoding
import Banter.Proofs.Conversation.Run
import Banter.Proofs.Reply.Heeding

namespace Banter.Conversation

/-- A conversation keeps its brain sound, whether it starts from nothing or from a file. -/
theorem isSound_run {start : Brain}
    (hstart : start = .empty ∨ ∃ bytes, BrainFile.decode bytes = .ok start) (dice : Dice)
    (events : List Event) : ((Conversation.start start dice).run events).brain.IsSound := by
  have hsound : start.IsSound := by
    rcases hstart with rfl | ⟨bytes, hbytes⟩
    · exact Brain.isSound_empty
    · exact BrainFile.isSound_of_decode hbytes
  exact run_induction (motive := fun brain _ => brain.IsSound) (fun _ _ h => h) Brain.isSound_empty
    (fun _ _ _ h hkeeps => h.keeps hkeeps) (fun _ _ _ _ h hlearns => h.learns hlearns) events hsound

/-- Whether replying to a text succeeds, and the brain that it leaves, are the same with all dice. They are
those of learning the text, unless the text is empty and the reply is the first to need the stop. -/
theorem run_reply_teaches (start : Brain)
    (hstart : start = .empty ∨ ∃ bytes, BrainFile.decode bytes = .ok start) (dice : Dice)
    (events : List Event) (text : String) (first second : Dice) :
    let brain := ((Conversation.start start dice).run events).brain
    (((∃ reply, (brain.reply text first).1 = .ok reply) ↔
        ∃ reply, (brain.reply text second).1 = .ok reply) ∧
      (brain.reply text first).2.1 = (brain.reply text second).2.1) ∧
    (text ≠ "" ∨ (∃ stop, brain.lexicon.symbol? stop = some .stop) ∨ brain.memory.onward.children = #[] →
      ((∃ reply, (brain.reply text first).1 = .ok reply) ↔ (brain.learn text).1 = .ok ()) ∧
      ((brain.reply text first).1 = .error (.full 65536) ↔
        (brain.learn text).1 = .error (.full 65536)) ∧
      (brain.reply text first).2.1 = (brain.learn text).2) := by
  intro brain
  have hsound : brain.IsSound := isSound_run hstart dice events
  have hdice : brain.heed text first = brain.heed text second := hsound.heed_congr text first second
  refine ⟨⟨?_, congrArg Prod.snd hdice⟩, ?_⟩
  · rw [Brain.exists_reply_iff, Brain.exists_reply_iff, hdice]
  · intro hends
    have hlearn : brain.heed text first = brain.learn text := hsound.heed_eq_learn first hends
    refine ⟨?_, ?_, congrArg Prod.snd hlearn⟩
    · rw [Brain.exists_reply_iff, hlearn]
    · rw [Brain.fault_of_reply_iff, hlearn]

theorem run_reply_teaches_silence :
    let bytes : List UInt8 := [2, 0, 0, 0, 2, 0, 0, 1, 0, 1, 0, 1, 0, 0, 0, 0, 0, 0, 0, 0, 0]
    let events : List Event := [.train [46, 46, 10, 255], .reply "see. it"]
    ∃ start, BrainFile.decode bytes = .ok start ∧
      let brain := ((Conversation.start start (.mixed 7)).run events).brain
      brain.lexicon.symbol? 1 = some .stop ∧
        (brain.reply "" (.mixed 3)).2.1 = (brain.learn "").2 := by
  intro bytes events
  have hread : ∃ start, BrainFile.decode bytes = .ok start ∧
      ((Conversation.start start (.mixed 7)).run events).brain.lexicon.symbol? 1 = some .stop :=
    ⟨_, rfl, by decide +kernel⟩
  obtain ⟨start, hstart, hstop⟩ := hread
  have hteaches := run_reply_teaches start (Or.inr ⟨bytes, hstart⟩) (.mixed 7) events "" (.mixed 3) (.mixed 4)
  exact ⟨start, hstart, hstop, (hteaches.2 (Or.inr (Or.inl ⟨1, hstop⟩))).2.2⟩

end Banter.Conversation
