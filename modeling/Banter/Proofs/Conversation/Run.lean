import Banter.Proofs.Brain.Soundness

/-!
# Conversations

A conversation is a brain that learns, replies, trains and forgets in any order, with the dice for its
replies. Beside the brain stand the texts that it has learned since it last forgot. What holds of the empty
brain and is kept as the lexicon grows and as a text is learned holds throughout.
-/

namespace Banter

inductive Event where
  | learn (text : String)
  | reply (text : String)
  | train (content : List UInt8)
  | forget

/-- The texts among lines that are learned, up to the first line that is no text or cannot be learned. -/
def Brain.linesLearned (brain : Brain) : List (List UInt8) → List String
  | [] => []
  | line :: rest =>
    match Text.ofUtf8? line with
    | none => []
    | some text =>
      match brain.learn text with
      | (.ok (), brain) => text :: brain.linesLearned rest
      | (.error _, _) => []

/-- A brain, the dice for its replies, and the texts it has learned since it last forgot. -/
structure Conversation where
  brain : Brain
  dice : Dice
  learned : List String

namespace Conversation

def start (brain : Brain) (dice : Dice) : Conversation :=
  ⟨brain, dice, []⟩

/-- The conversation after an event. A text is learned if learning it or replying to it does not fail. -/
def after : Conversation → Event → Conversation
  | ⟨brain, dice, learned⟩, .learn text =>
    match brain.learn text with
    | (.ok (), brain) => ⟨brain, dice, learned ++ [text]⟩
    | (.error _, brain) => ⟨brain, dice, learned⟩
  | ⟨brain, dice, learned⟩, .reply text =>
    match brain.reply text dice with
    | (.ok _, brain, dice) => ⟨brain, dice, learned ++ [text]⟩
    | (.error _, brain, dice) => ⟨brain, dice, learned⟩
  | ⟨brain, dice, learned⟩, .train content =>
    ⟨(brain.train content).2, dice, learned ++ brain.linesLearned (Text.linesOf content)⟩
  | ⟨_, dice, _⟩, .forget => ⟨.empty, dice, []⟩

def run (talk : Conversation) (events : List Event) : Conversation :=
  events.foldl after talk

section Invariants

variable {motive : Brain → List String → Prop}

/-- What learning one text keeps, learning lines keeps. -/
theorem learnLines_induction
    (keeps : ∀ older newer learned, motive older learned → older.Keeps newer → motive newer learned)
    (learns : ∀ older newer text learned, motive older learned → older.Learns text newer →
      motive newer (learned ++ [text]))
    (lines : List (List UInt8)) (count : Nat) {brain : Brain} {learned : List String}
    (h : motive brain learned) :
    motive (brain.learnLines count lines).2 (learned ++ brain.linesLearned lines) := by
  induction lines generalizing count brain learned with
  | nil => simpa [Brain.learnLines, Brain.linesLearned] using h
  | cons line lines ih =>
    rw [Brain.learnLines, Brain.linesLearned]
    cases Text.ofUtf8? line with
    | none => simpa using h
    | some text =>
      obtain ⟨newer, ⟨hlearn, hlearns⟩ | ⟨hlearn, hkeeps⟩⟩ := brain.learn_cases text
      · have hrest := ih (count + 1) (learns brain newer text learned h hlearns)
        simpa [hlearn] using hrest
      · simpa [hlearn] using keeps brain newer learned h hkeeps

/-- What each event keeps. -/
theorem after_induction (sound : ∀ brain learned, motive brain learned → brain.IsSound)
    (empty : motive .empty [])
    (keeps : ∀ older newer learned, motive older learned → older.Keeps newer → motive newer learned)
    (learns : ∀ older newer text learned, motive older learned → older.Learns text newer →
      motive newer (learned ++ [text]))
    (event : Event) {talk : Conversation} (h : motive talk.brain talk.learned) :
    motive (talk.after event).brain (talk.after event).learned := by
  obtain ⟨brain, dice, learned⟩ := talk
  cases event with
  | learn text =>
    obtain ⟨newer, ⟨hlearn, hlearns⟩ | ⟨hlearn, hkeeps⟩⟩ := brain.learn_cases text
    · rw [after, hlearn]
      exact learns brain newer text learned h hlearns
    · rw [after, hlearn]
      exact keeps brain newer learned h hkeeps
  | reply text =>
    obtain ⟨newer, later, ⟨hreply, hkeeps⟩ | ⟨reader, _, _, hkeeps, hlearns, _, hreply⟩⟩ :=
      (sound brain learned h).reply_cases text dice
    · rw [after, hreply]
      exact keeps brain newer learned h hkeeps
    · rw [after, hreply]
      exact learns brain newer text learned h (hkeeps.learns hlearns)
  | train content => exact learnLines_induction keeps learns (Text.linesOf content) 0 h
  | forget => exact empty

/-- What each event keeps holds throughout a conversation. -/
theorem run_induction (sound : ∀ brain learned, motive brain learned → brain.IsSound)
    (empty : motive .empty [])
    (keeps : ∀ older newer learned, motive older learned → older.Keeps newer → motive newer learned)
    (learns : ∀ older newer text learned, motive older learned → older.Learns text newer →
      motive newer (learned ++ [text]))
    (events : List Event) {talk : Conversation} (h : motive talk.brain talk.learned) :
    motive (talk.run events).brain (talk.run events).learned := by
  induction events generalizing talk with
  | nil => exact h
  | cons event events ih => exact ih (after_induction sound empty keeps learns event h)

end Invariants

end Conversation

end Banter
