import Banter.Proofs.Conversation.Figures

namespace Banter

/-- The texts that are known after an event that goes without a fault. -/
def Event.taughtOnto (texts : List String) : Event → List String
  | .learn text => texts ++ [text]
  | .reply text => texts ++ [text]
  | .train content => texts ++ (Text.linesOf content).filterMap Text.ofUtf8?
  | .forget => []

def taughtBy (events : List Event) : List String :=
  events.foldl Event.taughtOnto []

theorem Stats.ofTexts_congr {texts others : List String} (h : texts.toFinset = others.toFinset) :
    ofTexts texts = ofTexts others := by
  have hmem : ∀ text, text ∈ texts ↔ text ∈ others := by
    intro text
    rw [← List.mem_toFinset, h, List.mem_toFinset]
  have hsymbols : symbolsIn texts = symbolsIn others := by
    ext symbol
    simp [mem_symbolsIn, hmem]
  have htriples : triplesIn texts = triplesIn others := by
    ext run
    simp [mem_triplesIn, hmem]
  simp [ofTexts, openingsIn, hsymbols, htriples]

namespace Conversation

def succeeds (talk : Conversation) : Event → Bool
  | .learn text => (talk.brain.learn text).1.isOk
  | .reply text => (talk.brain.reply text talk.dice).1.isOk
  | .train content => (talk.brain.train content).1.isOk
  | .forget => true

def succeedsThroughout (talk : Conversation) : List Event → Bool
  | [] => true
  | event :: events => talk.succeeds event && (talk.after event).succeedsThroughout events

private theorem exists_ok {α : Type} {result : Except Fault α} (h : result.isOk = true) :
    ∃ value, result = .ok value := by
  cases result with
  | ok value => exact ⟨value, rfl⟩
  | error fault => simp [Except.isOk, Except.toBool] at h

theorem knowsJust_after {talk : Conversation} {texts : List String} (h : talk.brain.KnowsJust texts)
    {event : Event} (hok : talk.succeeds event = true) :
    (talk.after event).brain.KnowsJust (event.taughtOnto texts) := by
  obtain ⟨brain, dice, learned⟩ := talk
  cases event with
  | learn text =>
    obtain ⟨_, hok⟩ := exists_ok hok
    have hlearn : brain.learn text = (.ok (), (brain.learn text).2) := Prod.ext hok rfl
    rw [after, hlearn]
    exact h.learn hlearn
  | reply text =>
    obtain ⟨reply, hok⟩ := exists_ok hok
    have hreply : brain.reply text dice = (.ok reply, (brain.reply text dice).2) := Prod.ext hok rfl
    rw [after, hreply]
    exact h.reply hreply
  | train content =>
    obtain ⟨count, hok⟩ := exists_ok hok
    exact h.learnLines (Prod.ext hok rfl)
  | forget => exact Brain.knowsJust_empty

theorem knowsJust_run {talk : Conversation} {texts : List String} (h : talk.brain.KnowsJust texts)
    {events : List Event} (hok : talk.succeedsThroughout events = true) :
    (talk.run events).brain.KnowsJust (events.foldl Event.taughtOnto texts) := by
  induction events generalizing talk texts with
  | nil => exact h
  | cons event events ih =>
    rw [succeedsThroughout, Bool.and_eq_true] at hok
    exact ih (knowsJust_after h hok.1) hok.2

/-- As long as nothing fails, the figures count the symbols, the runs of three symbols and their beginnings in
the texts that were learned. So neither the order of the texts nor their repetition nor the dice matter. -/
theorem run_stats (dice : Dice) (events : List Event)
    (h : (Conversation.start .empty dice).succeedsThroughout events = true) :
    let brain := ((Conversation.start .empty dice).run events).brain
    brain.stats = Stats.ofTexts (taughtBy events) ∧
      brain.memory.onward.sizeAt 3 = (triplesIn (taughtBy events)).card ∧
      ∀ later others, (Conversation.start .empty later).succeedsThroughout others = true →
        (taughtBy others).toFinset = (taughtBy events).toFinset →
        ((Conversation.start .empty later).run others).brain.stats = brain.stats := by
  intro brain
  have hknows : brain.KnowsJust (taughtBy events) := knowsJust_run Brain.knowsJust_empty h
  refine ⟨hknows.stats_eq, ?_, ?_⟩
  · rw [hknows.sizeAt_onward (by decide) (by decide), openingsIn_three]
  · intro later others hothers htexts
    have hsame : ((Conversation.start .empty later).run others).brain.KnowsJust (taughtBy others) :=
      knowsJust_run Brain.knowsJust_empty hothers
    rw [hsame.stats_eq, hknows.stats_eq]
    exact Stats.ofTexts_congr htexts

theorem run_stats_repeats :
    let events : List Event := [.learn "See you.", .reply "You see?", .train [79, 104, 10, 111, 104, 10]]
    let others : List Event := [.reply "Oh", .learn "oh", .learn "You see?", .learn "See you.", .reply "Oh"]
    let talk := Conversation.start .empty (.mixed 7)
    let other := Conversation.start .empty (.evenlySpaced 0 3)
    talk.succeedsThroughout events = true ∧ other.succeedsThroughout others = true ∧
      (talk.run events).brain.stats = ⟨6, 4, 11, 352⟩ ∧
      (other.run others).brain.stats = (talk.run events).brain.stats := by
  intro events others talk other
  have hevents : talk.succeedsThroughout events = true := by decide +kernel
  have hothers : other.succeedsThroughout others = true := by decide +kernel
  have htexts : (taughtBy others).toFinset = (taughtBy events).toFinset := by decide +kernel
  have hfigures : Stats.ofTexts (taughtBy events) = ⟨6, 4, 11, 352⟩ := by decide +kernel
  obtain ⟨hstats, _, hsame⟩ := run_stats (.mixed 7) events hevents
  refine ⟨hevents, hothers, ?_, hsame (.evenlySpaced 0 3) others hothers htexts⟩
  rw [hstats, hfigures]

end Conversation

end Banter
