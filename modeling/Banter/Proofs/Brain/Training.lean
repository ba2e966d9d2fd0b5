import Banter.Brain
import Banter.Proofs.Text.Lines

/-!
# Training, line by line

Training learns the lines of a content one after another. It ends at the first line that is no text or
cannot be learned, with the brain that this line leaves, and else counts the lines. So training can be
interrupted behind any line feed and go on from there.
-/

namespace Banter.Brain

/-- A brain learns texts one after another, without a fault, and becomes another. -/
inductive LearnsInTurn : Brain → List String → Brain → Prop
  | nil (brain : Brain) : LearnsInTurn brain [] brain
  | cons {brain next newer : Brain} {text : String} {texts : List String}
      (learned : brain.learn text = (.ok (), next)) (rest : LearnsInTurn next texts newer) :
      LearnsInTurn brain (text :: texts) newer

/-- How training on lines can end. -/
inductive Trains (brain : Brain) : List (List UInt8) → Except Fault Nat → Brain → Prop
  | throughout {texts : List String} {newer : Brain} (inTurn : LearnsInTurn brain texts newer) :
      Trains brain (texts.map Text.toUtf8) (.ok texts.length) newer
  | noText {texts : List String} {last : Brain} (inTurn : LearnsInTurn brain texts last)
      {line : List UInt8} (broken : ∀ text, line ≠ Text.toUtf8 text) (rest : List (List UInt8)) :
      Trains brain (texts.map Text.toUtf8 ++ line :: rest) (.error (.file .notUtf8)) last
  | unlearned {texts : List String} {last newer : Brain} (inTurn : LearnsInTurn brain texts last)
      {text : String} {fault : Fault} (fails : last.learn text = (.error fault, newer))
      (rest : List (List UInt8)) :
      Trains brain (texts.map Text.toUtf8 ++ Text.toUtf8 text :: rest) (.error fault) newer

/-- A line that is learned comes before the others. -/
theorem Trains.cons {brain next newer : Brain} {text : String} {lines : List (List UInt8)}
    {result : Except Fault Nat} (learned : brain.learn text = (.ok (), next))
    (h : next.Trains lines result newer) :
    brain.Trains (Text.toUtf8 text :: lines) (result.map (· + 1)) newer := by
  cases h with
  | throughout inTurn => exact .throughout (.cons learned inTurn)
  | noText inTurn broken rest => exact .noText (.cons learned inTurn) broken rest
  | unlearned inTurn fails rest => exact .unlearned (.cons learned inTurn) fails rest

theorem learnLines_of_inTurn {brain newer : Brain} {texts : List String}
    (h : brain.LearnsInTurn texts newer) (count : Nat) (rest : List (List UInt8)) :
    brain.learnLines count (texts.map Text.toUtf8 ++ rest) =
      newer.learnLines (count + texts.length) rest := by
  induction h generalizing count with
  | nil => rfl
  | cons learned _ ih =>
    rw [List.map_cons, List.cons_append, learnLines, Text.ofUtf8?_toUtf8]
    simp only [learned]
    rw [ih, List.length_cons, Nat.add_right_comm, Nat.add_assoc]

/-- However training can end, it does end so. -/
theorem learnLines_of_trains {brain newer : Brain} {lines : List (List UInt8)} {result : Except Fault Nat}
    (h : brain.Trains lines result newer) (count : Nat) :
    brain.learnLines count lines = (result.map (count + ·), newer) := by
  cases h with
  | @throughout texts _ inTurn =>
    have hlines := learnLines_of_inTurn inTurn count []
    rw [List.append_nil] at hlines
    rw [hlines, learnLines]
    rfl
  | @noText _ _ inTurn line broken rest =>
    have hnone : Text.ofUtf8? line = none :=
      Option.eq_none_iff_forall_ne_some.mpr fun text htext =>
        broken text (Text.ofUtf8?_eq_some_iff.mp htext)
    rw [learnLines_of_inTurn inTurn, learnLines, hnone]
    rfl
  | unlearned inTurn fails rest =>
    rw [learnLines_of_inTurn inTurn, learnLines, Text.ofUtf8?_toUtf8]
    simp only [fails]
    rfl

theorem exists_trains (brain : Brain) (lines : List (List UInt8)) :
    ∃ result newer, brain.Trains lines result newer := by
  induction lines generalizing brain with
  | nil => exact ⟨_, _, .throughout (.nil brain)⟩
  | cons line lines ih =>
    by_cases htext : ∃ text, line = Text.toUtf8 text
    · obtain ⟨text, rfl⟩ := htext
      cases hlearn : brain.learn text with
      | mk outcome next =>
        cases outcome with
        | ok =>
          obtain ⟨result, newer, h⟩ := ih next
          exact ⟨_, _, h.cons hlearn⟩
        | error fault => exact ⟨_, _, .unlearned (.nil brain) hlearn lines⟩
    · exact ⟨_, _, .noText (.nil brain) (not_exists.mp htext) lines⟩

theorem trains_iff {brain newer : Brain} {lines : List (List UInt8)} {result : Except Fault Nat} :
    brain.Trains lines result newer ↔ brain.learnLines 0 lines = (result, newer) := by
  have hends {result : Except Fault Nat} {newer : Brain} (h : brain.Trains lines result newer) :
      brain.learnLines 0 lines = (result, newer) := by
    rw [learnLines_of_trains h]
    cases result <;> simp [Except.map]
  constructor
  · exact hends
  · intro h
    -- There is some end, and what is computed is the same for every end.
    obtain ⟨_, _, htrains⟩ := exists_trains brain lines
    obtain ⟨rfl, rfl⟩ := Prod.mk.inj ((hends htrains).symm.trans h)
    exact htrains

theorem learnLines_eq (count : Nat) (brain : Brain) (lines : List (List UInt8)) :
    brain.learnLines count lines =
      ((brain.learnLines 0 lines).1.map (count + ·), (brain.learnLines 0 lines).2) :=
  learnLines_of_trains (trains_iff.mpr rfl) count

/-- Lines are learned in two parts as in one. -/
theorem learnLines_append (count : Nat) (brain : Brain) (front back : List (List UInt8)) :
    brain.learnLines count (front ++ back) =
      match brain.learnLines count front with
      | (.ok count, middle) => middle.learnLines count back
      | (.error fault, middle) => (.error fault, middle) := by
  induction front generalizing count brain with
  | nil => rfl
  | cons line front ih =>
    rw [List.cons_append, learnLines, learnLines]
    cases Text.ofUtf8? line with
    | none => rfl
    | some text =>
      dsimp only
      rcases brain.learn text with ⟨_ | _, next⟩
      · rfl
      · exact ih (count + 1) next

/-- Training learns the lines of a content in turn. Training on content that is empty or ends in a line
feed, and then on more, is training on both at once. -/
theorem train_in_turn (brain : Brain) :
    (∀ content result newer, brain.train content = (result, newer) ↔
      ∃ lines, Text.FallsIntoLines content lines ∧ brain.Trains lines result newer) ∧
    ∀ front back, front = [] ∨ front.getLast? = some Text.lineFeed →
      brain.train (front ++ back) =
        match brain.train front with
        | (.ok count, middle) =>
          match middle.train back with
          | (.ok more, newer) => (.ok (count + more), newer)
          | (.error fault, newer) => (.error fault, newer)
        | (.error fault, middle) => (.error fault, middle) := by
  constructor
  · intro content result newer
    constructor
    · intro h
      exact ⟨Text.linesOf content, Text.fallsIntoLines_iff.mpr rfl, trains_iff.mpr h⟩
    · rintro ⟨lines, hfalls, htrains⟩
      rw [train, Text.fallsIntoLines_iff.mp hfalls]
      exact trains_iff.mp htrains
  · intro front back h
    rw [train, Text.linesOf_append h, learnLines_append, ← train]
    rcases brain.train front with ⟨_ | count, middle⟩
    · rfl
    · dsimp only
      rw [learnLines_eq, ← train]
      rcases middle.train back with ⟨_ | _, _⟩ <;> rfl

/-- A line, and behind it a line that is no text. -/
theorem train_in_turn_broken_line :
    [104, 105, 13, 10].getLast? = some Text.lineFeed ∧
      (empty.train [104, 105, 13, 10]).1 = .ok 1 ∧
      (empty.train ([104, 105, 13, 10] ++ [255, 10, 104])).1 = .error (.file .notUtf8) := by
  have hends : [104, 105, 13, 10].getLast? = some Text.lineFeed := rfl
  rw [(train_in_turn empty).2 _ [255, 10, 104] (Or.inr hends)]
  exact ⟨hends, by decide +kernel, by decide +kernel⟩

end Banter.Brain
