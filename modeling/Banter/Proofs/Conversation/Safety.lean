import Banter.Proofs.BrainFile.Decoding
import Banter.Proofs.Conversation.Run

/-!
# Safe conversations

Whatever file a conversation starts from and whatever happens in it, the brain stays safe. Nothing about the
shape of what was learned is used, since a file may hold paths that no text leads to.
-/

namespace Banter

/-- A brain that is in order and whose replies are bounded, and fail only for want of room. -/
structure Brain.IsSafe (brain : Brain) : Prop where
  distinct : brain.lexicon.symbols.toList.Nodup
  bounded : brain.lexicon.size ≤ 65536
  sorted : ∀ direction, (brain.memory.trie direction).isSorted = true
  shallow : ∀ direction path, (brain.memory.trie direction).HasPath path → path.length ≤ 3
  listed : ∀ direction path, (brain.memory.trie direction).HasPath path →
    ∀ id ∈ path, id.toNat < brain.lexicon.size
  replies : ∀ text dice, (brain.reply text dice).1 = .error (.full 65536) ∨
    ∃ reply, (brain.reply text dice).1 = .ok reply ∧ reply.said.length ≤ 100 ∧ .stop ∉ reply.said

theorem Brain.IsSound.isSafe {brain : Brain} (h : brain.IsSound) : brain.IsSafe where
  distinct := brain.lexicon.nodup_symbols
  bounded := brain.lexicon.size_le
  sorted := h.sorted
  shallow := h.shallow
  listed := h.listed
  replies text dice := by
    obtain ⟨newer, later, ⟨hreply, _⟩ | ⟨reader, ids, symbols, hkeeps, _, hspells, hreply⟩⟩ :=
      h.reply_cases text dice
    · exact Or.inl (by rw [hreply]; rfl)
    · refine Or.inr ⟨_, by rw [hreply], ?_, ?_⟩
      · have hfilter := List.length_filter_le (!·.isStop) symbols
        have hlength := length_compose_le (h.keeps hkeeps).sorted ids dice
        rw [hspells.length_eq] at hlength
        exact Nat.le_trans hfilter hlength
      · simp [Symbol.isStop]

namespace Conversation

/-- A conversation that starts from nothing or from any file that can be read keeps its brain safe, whatever
happens in it. -/
theorem run_isSafe (start : Brain)
    (hstart : start = .empty ∨ ∃ bytes, BrainFile.decode bytes = .ok start)
    (dice : Dice) (events : List Event) :
    ((Conversation.start start dice).run events).brain.IsSafe := by
  have hsound : start.IsSound := by
    rcases hstart with rfl | ⟨bytes, hbytes⟩
    · exact Brain.isSound_empty
    · exact BrainFile.isSound_of_decode hbytes
  have hrun := @run_induction (fun brain _ => brain.IsSound) (fun _ _ h => h) Brain.isSound_empty
    (fun _ _ _ h hkeeps => h.keeps hkeeps) (fun _ _ _ _ h hlearns => h.learns hlearns)
    events (Conversation.start start dice) hsound
  exact hrun.isSafe

/-- A conversation that starts from a file with the stop in the middle of a path. -/
theorem run_isSafe_early_stop :
    let bytes : List UInt8 := [2, 0, 0, 0, 2, 0, 0, 1, 0, 1, 0, 1, 0, 0, 0, 0, 0, 0, 0, 0, 0]
    let events : List Event := [.reply ".", .train [46, 46, 10, 255], .learn "?!"]
    ∃ start, BrainFile.decode bytes = .ok start ∧
      ((Conversation.start start (.mixed 7)).run events).brain.IsSafe := by
  intro bytes events
  have hread : ∃ start, BrainFile.decode bytes = .ok start := ⟨_, rfl⟩
  obtain ⟨start, hstart⟩ := hread
  exact ⟨start, hstart, run_isSafe start (Or.inr ⟨bytes, hstart⟩) (.mixed 7) events⟩

end Conversation

end Banter
