import Banter.Proofs.Brain.Soundness
import Banter.Proofs.Reading.Stops

/-!
# What a reply does to a brain

Whether anything is said does not depend on the dice, and what is said is not learned. So replying to a text
does one thing to a brain, whatever is said. It is what learning the text does, unless the text is empty and
the reply brings in the stop.
-/

namespace Banter

namespace Brain

variable {brain : Brain}

/-- A seed is nothing exactly when the brain knows nothing to begin with. -/
theorem seed_eq_nil_iff (hsorted : (brain.memory.trie .onward).isSorted = true)
    (ids : Array SymbolId) (dice : Dice) :
    (brain.seed ids dice).1 = [] ↔ brain.memory.onward.children = #[] := by
  constructor
  · intro hseed
    by_cases hnone : brain.memory.onward.children = #[]
    · exact hnone
    · cases hdrawn : dice.choose order with
      | mk further later =>
        unfold seed at hseed
        rw [hdrawn] at hseed
        dsimp only at hseed
        split at hseed
        next run hrun => exact absurd hseed (knownRun?_eq_some hrun).2.1
        next =>
          obtain ⟨id, last, hpick⟩ := Trie.exists_pick hnone later
          have hfirst : brain.pick .onward [] later = (some id, last) := hpick
          rw [hfirst] at hseed
          exact absurd hseed (List.cons_ne_nil id [])
  · intro hnone
    have hpath := (hasPath_seed hsorted ids dice).2
    cases hseed : (brain.seed ids dice).1 with
    | nil => rfl
    | cons id rest =>
      rw [hseed] at hpath
      exact absurd hnone (Trie.children_ne_empty hpath)

/-- A brain says nothing exactly when it knows nothing to begin with, whatever it has heard and whatever the
dice show. -/
theorem compose_eq_nil_iff (hsorted : ∀ direction, (brain.memory.trie direction).isSorted = true)
    (ids : Array SymbolId) (dice : Dice) :
    (brain.compose ids dice).1 = [] ↔ brain.memory.onward.children = #[] := by
  rw [← seed_eq_nil_iff (hsorted .onward) ids dice]
  unfold compose
  cases hseed : brain.seed ids dice with
  | mk said later =>
    cases said with
    | nil => rfl
    | cons first rest =>
      have hopened := growBackward_induction (motive := (· ≠ [])) hsorted
        (fun _ _ _ _ _ => List.cons_ne_nil _ _) (hardLimit - (first :: rest).length)
        (List.cons_ne_nil first rest) later
      have hgrown := growOnward_induction (motive := (· ≠ [])) hsorted
        (fun _ _ _ _ _ => List.concat_ne_nil _ _)
        (hardLimit - (brain.growBackward (hardLimit - (first :: rest).length) (first :: rest) later).1.length)
        hopened (brain.growBackward (hardLimit - (first :: rest).length) (first :: rest) later).2
      exact iff_of_false hgrown (List.cons_ne_nil first rest)

/-- What replying to a text does, apart from what is said. -/
def heed (brain : Brain) (text : String) (dice : Dice) : Except Fault Unit × Brain :=
  ((brain.reply text dice).1.map fun _ => (), (brain.reply text dice).2.1)

theorem exists_reply_iff {text : String} {dice : Dice} :
    (∃ reply, (brain.reply text dice).1 = .ok reply) ↔ (brain.heed text dice).1 = .ok () := by
  unfold heed
  cases (brain.reply text dice).1 <;> simp [Except.map]

theorem fault_of_reply_iff {text : String} {dice : Dice} {fault : Fault} :
    (brain.reply text dice).1 = .error fault ↔ (brain.heed text dice).1 = .error fault := by
  unfold heed
  cases (brain.reply text dice).1 <;> simp [Except.map]

theorem heed_of_read_error {text : String} {fault : Fault} {reader : Brain}
    (hread : brain.read text = (.error fault, reader)) (dice : Dice) :
    brain.heed text dice = (.error fault, reader) := by
  have hreply : brain.reply text dice = (.error fault, reader, dice) := by
    unfold reply
    rw [hread]
  rw [heed, hreply]
  rfl

/-- A sound brain heeds a text that it can read by ending the reply and studying the text. -/
theorem IsSound.heed_of_read_ok (h : brain.IsSound) {text : String} {ids : Array SymbolId} {reader : Brain}
    (hread : brain.read text = (.ok ids, reader)) (dice : Dice) :
    brain.heed text dice = reader.finishReply ids (reader.compose ids dice).1 := by
  have hkeeps := brain.keeps_read text
  rw [hread] at hkeeps
  have hspells := spells_of_read hread
  obtain ⟨symbols, hsaid⟩ := Lexicon.exists_spells ((h.keeps hkeeps).listed_compose ids dice)
  obtain ⟨newer, ⟨hfinish, hlearns⟩ | ⟨hfinish, _⟩⟩ := finishReply_cases hspells (reader.compose ids dice).1
  · have hheard := symbolsOfIds_of_spells (hspells.of_growsTo hlearns.1)
    have hanswer := symbolsOfIds_of_spells (hsaid.of_growsTo hlearns.1)
    have hreply : brain.reply text dice =
        (newer.replyOfIds ids.toList (reader.compose ids dice).1, newer, (reader.compose ids dice).2) := by
      unfold reply
      simp only [hread, hfinish]
    rw [heed, hreply, hfinish, replyOfIds, hheard, hanswer]
    rfl
  · have hreply : brain.reply text dice =
        (.error (.full Lexicon.capacity), newer, (reader.compose ids dice).2) := by
      unfold reply
      simp only [hread, hfinish]
    rw [heed, hreply, hfinish]
    rfl

theorem finishReply_congr {heard : Array SymbolId} {said other : List SymbolId}
    (h : said = [] ↔ other = []) : brain.finishReply heard said = brain.finishReply heard other := by
  cases said with
  | nil => rw [h.mp rfl]
  | cons first rest =>
    cases other with
    | nil => exact absurd (h.mpr rfl) (List.cons_ne_nil first rest)
    | cons _ _ => rfl

/-- What replying does to a sound brain does not depend on the dice. -/
theorem IsSound.heed_congr (h : brain.IsSound) (text : String) (first second : Dice) :
    brain.heed text first = brain.heed text second := by
  cases hread : brain.read text with
  | mk result reader =>
    cases result with
    | error fault => rw [heed_of_read_error hread first, heed_of_read_error hread second]
    | ok ids =>
      have hkeeps := brain.keeps_read text
      rw [hread] at hkeeps
      have hsorted := (h.keeps hkeeps).sorted
      rw [h.heed_of_read_ok hread first, h.heed_of_read_ok hread second]
      apply finishReply_congr
      rw [compose_eq_nil_iff hsorted ids first, compose_eq_nil_iff hsorted ids second]

/-- Where nothing is said or the stop has a number, ending a reply does nothing. -/
theorem finishReply_eq_study {heard : Array SymbolId} {said : List SymbolId}
    (h : said = [] ∨ ∃ stop, brain.lexicon.symbol? stop = some .stop) :
    brain.finishReply heard said = brain.study heard := by
  cases said with
  | nil => rfl
  | cons first rest =>
    rcases h with hnone | ⟨stop, hstop⟩
    · exact absurd hnone (List.cons_ne_nil first rest)
    · rw [finishReply, endReply, enterStop_of_symbol? hstop]

/-- Replying does what learning does, if the text has characters, the stop has a number already or there is
nothing to say. -/
theorem IsSound.heed_eq_learn (h : brain.IsSound) {text : String} (dice : Dice)
    (hends : text ≠ "" ∨ (∃ stop, brain.lexicon.symbol? stop = some .stop) ∨
      brain.memory.onward.children = #[]) : brain.heed text dice = brain.learn text := by
  cases hread : brain.read text with
  | mk result reader =>
    cases result with
    | error fault =>
      rw [heed_of_read_error hread dice, learn, hread]
    | ok ids =>
      have hkeeps := brain.keeps_read text
      rw [hread] at hkeeps
      have hlearn : brain.learn text = reader.study ids := by
        rw [learn, hread]
      rw [h.heed_of_read_ok hread dice, hlearn]
      apply finishReply_eq_study
      rcases hends with hsome | ⟨stop, hstop⟩ | hnone
      · obtain ⟨stop, _, hstop⟩ := (spells_of_read hread).exists_id (stop_mem_symbolsOf hsome)
        exact Or.inr ⟨stop, hstop⟩
      · exact Or.inr ⟨stop, hkeeps.1.symbol? hstop⟩
      · apply Or.inl
        rw [compose_eq_nil_iff (h.keeps hkeeps).sorted, hkeeps.2]
        exact hnone

end Brain

end Banter
