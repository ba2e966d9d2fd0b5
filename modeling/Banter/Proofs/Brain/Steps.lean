import Banter.Proofs.Lexicon.Entering
import Banter.Proofs.Memory.Learning
import Banter.Reply

/-!
# What a step does to a brain

Learning and replying do one of two things. Either the lexicon grows to spell the text and the memory takes
the paths of the spelling, or the lexicon is full and the memory stays as it is.
-/

namespace Banter.Brain

/-- A brain keeps its memory, while its lexicon may grow. -/
def Keeps (older newer : Brain) : Prop :=
  older.lexicon.GrowsTo newer.lexicon ∧ newer.memory = older.memory

/-- A brain learns a text: its lexicon grows to spell the text, and its memory takes the paths of the
spelling, with the number of the stop if there are any. -/
def Learns (older : Brain) (text : String) (newer : Brain) : Prop :=
  older.lexicon.GrowsTo newer.lexicon ∧ ∃ ids stop,
    newer.lexicon.Spells ids.toList (symbolsOf text) ∧
    (order < ids.size → newer.lexicon.symbol? stop = some .stop) ∧
    newer.memory = older.memory.learn order ids stop

theorem Keeps.trans {a b c : Brain} (hab : a.Keeps b) (hbc : b.Keeps c) : a.Keeps c :=
  ⟨hab.1.trans hbc.1, hbc.2.trans hab.2⟩

theorem Keeps.learns {a b c : Brain} {text : String} (hab : a.Keeps b) (hbc : b.Learns text c) :
    a.Learns text c := by
  obtain ⟨hgrows, ids, stop, hspells, hstop, hmemory⟩ := hbc
  exact ⟨hab.1.trans hgrows, ids, stop, hspells, hstop, by rw [hmemory, hab.2]⟩

theorem keeps_read (brain : Brain) (text : String) : brain.Keeps (brain.read text).2 := by
  cases brain with
  | mk lexicon memory => exact ⟨lexicon.growsTo_enterAll (symbolsOf text), rfl⟩

theorem spells_of_read {brain newer : Brain} {text : String} {ids : Array SymbolId}
    (h : brain.read text = (.ok ids, newer)) : newer.lexicon.Spells ids.toList (symbolsOf text) := by
  cases brain with
  | mk lexicon memory =>
    obtain ⟨hok, rfl⟩ := Prod.mk.inj h
    exact Lexicon.spells_of_enterAll (Prod.ext hok rfl)

theorem fault_of_read {brain newer : Brain} {text : String} {fault : Fault}
    (h : brain.read text = (.error fault, newer)) : fault = .full Lexicon.capacity := by
  cases brain with
  | mk lexicon memory =>
    obtain ⟨herror, _⟩ := Prod.mk.inj h
    exact Lexicon.fault_of_enterAll (Prod.ext herror rfl)

theorem keeps_enterStop (brain : Brain) : brain.Keeps brain.enterStop.2 := by
  cases brain with
  | mk lexicon memory => exact ⟨lexicon.growsTo_enter .stop, rfl⟩

theorem symbol?_of_enterStop {brain newer : Brain} {stop : SymbolId}
    (h : brain.enterStop = (.ok stop, newer)) : newer.lexicon.symbol? stop = some .stop := by
  cases brain with
  | mk lexicon memory =>
    obtain ⟨hok, rfl⟩ := Prod.mk.inj h
    exact Lexicon.symbol?_of_enter (Prod.ext hok rfl)

theorem enterStop_of_symbol? {brain : Brain} {stop : SymbolId}
    (h : brain.lexicon.symbol? stop = some .stop) :
    brain.enterStop = (.ok stop, brain) := by
  have hid := Lexicon.id?_eq_some_iff.mpr h
  cases brain with
  | mk lexicon memory =>
    rcases lexicon.enter_cases .stop with ⟨known, hknown, hentered⟩ | ⟨hnone, _⟩ | ⟨hnone, _⟩
    · obtain rfl := Option.some.inj (hknown.symm.trans hid)
      rw [enterStop, hentered]
    · rw [hid] at hnone
      exact absurd hnone (by simp)
    · rw [hid] at hnone
      exact absurd hnone (by simp)

theorem fault_of_enterStop {brain newer : Brain} {fault : Fault}
    (h : brain.enterStop = (.error fault, newer)) : fault = .full Lexicon.capacity := by
  cases brain with
  | mk lexicon memory =>
    obtain ⟨herror, _⟩ := Prod.mk.inj h
    exact Lexicon.fault_of_enter (Prod.ext herror rfl)

/-- What studying numbers that spell a text can do. -/
theorem study_cases {brain : Brain} {ids : Array SymbolId} {text : String}
    (h : brain.lexicon.Spells ids.toList (symbolsOf text)) : ∃ newer,
      (brain.study ids = (.ok (), newer) ∧ brain.Learns text newer) ∨
      (brain.study ids = (.error (.full Lexicon.capacity), newer) ∧ brain.Keeps newer) := by
  unfold study
  split
  next hshort =>
    have hsize : ids.size ≤ order := Nat.le_of_lt_succ hshort
    refine ⟨brain, Or.inl ⟨rfl, .refl _, ids, 0, h, ?_, ?_⟩⟩
    · intro hlong
      exact absurd hsize (Nat.not_le.mpr hlong)
    · exact (Memory.learn_of_size_le hsize 0 brain.memory).symm
  next =>
    have hkeeps := brain.keeps_enterStop
    split
    next stop lexicon memory hentered =>
      rw [hentered] at hkeeps
      have hstop := symbol?_of_enterStop hentered
      refine ⟨_, Or.inl ⟨rfl, hkeeps.1, ids, stop, h.of_growsTo hkeeps.1, fun _ => hstop, ?_⟩⟩
      rw [← hkeeps.2]
    next fault newer hentered =>
      rw [hentered] at hkeeps
      exact ⟨newer, Or.inr ⟨by rw [fault_of_enterStop hentered], hkeeps⟩⟩

/-- What learning a text can do. -/
theorem learn_cases (brain : Brain) (text : String) : ∃ newer,
    (brain.learn text = (.ok (), newer) ∧ brain.Learns text newer) ∨
    (brain.learn text = (.error (.full Lexicon.capacity), newer) ∧ brain.Keeps newer) := by
  have hkeeps := brain.keeps_read text
  unfold learn
  split
  next ids reader hread =>
    rw [hread] at hkeeps
    rcases study_cases (spells_of_read hread) with ⟨newer, ⟨h, hlearns⟩ | ⟨h, hkept⟩⟩
    · exact ⟨newer, Or.inl ⟨h, hkeeps.learns hlearns⟩⟩
    · exact ⟨newer, Or.inr ⟨h, hkeeps.trans hkept⟩⟩
  next fault newer hread =>
    rw [hread] at hkeeps
    exact ⟨newer, Or.inr ⟨by rw [fault_of_read hread], hkeeps⟩⟩

/-- What ending a reply and learning the text that was heard can do. -/
theorem finishReply_cases {brain : Brain} {heard : Array SymbolId} {text : String}
    (h : brain.lexicon.Spells heard.toList (symbolsOf text)) (said : List SymbolId) : ∃ newer,
      (brain.finishReply heard said = (.ok (), newer) ∧ brain.Learns text newer) ∨
      (brain.finishReply heard said = (.error (.full Lexicon.capacity), newer) ∧ brain.Keeps newer) := by
  unfold finishReply endReply
  cases said with
  | nil => exact study_cases h
  | cons first said =>
    have hkeeps := brain.keeps_enterStop
    cases hentered : brain.enterStop with
    | mk result ended =>
      rw [hentered] at hkeeps
      cases result with
      | ok stop =>
        rcases study_cases (h.of_growsTo hkeeps.1) with ⟨newer, ⟨hstudy, hlearns⟩ | ⟨hstudy, hkept⟩⟩
        · exact ⟨newer, Or.inl ⟨hstudy, hkeeps.learns hlearns⟩⟩
        · exact ⟨newer, Or.inr ⟨hstudy, hkeeps.trans hkept⟩⟩
      | error fault =>
        exact ⟨ended, Or.inr ⟨by rw [fault_of_enterStop hentered], hkeeps⟩⟩

/-- What replying to a text can do: fail for want of room, or learn the text and put into symbols what
was composed from its numbers. -/
theorem reply_cases (brain : Brain) (text : String) (dice : Dice) : ∃ newer later,
    (brain.reply text dice = (.error (.full Lexicon.capacity), newer, later) ∧ brain.Keeps newer) ∨
    ∃ reader ids, brain.read text = (.ok ids, reader) ∧ reader.Learns text newer ∧
      brain.reply text dice =
        (newer.replyOfIds ids.toList (reader.compose ids dice).1, newer, later) := by
  have hkeeps := brain.keeps_read text
  unfold reply
  split
  next fault newer hread =>
    rw [hread] at hkeeps
    exact ⟨newer, dice, Or.inl ⟨by rw [fault_of_read hread], hkeeps⟩⟩
  next ids reader hread =>
    rw [hread] at hkeeps
    rcases finishReply_cases (spells_of_read hread) (reader.compose ids dice).1 with
      ⟨newer, ⟨h, hlearns⟩ | ⟨h, hkept⟩⟩
    · exact ⟨newer, (reader.compose ids dice).2, Or.inr ⟨reader, ids, hread, hlearns, by simp only [h]⟩⟩
    · exact ⟨newer, (reader.compose ids dice).2, Or.inl ⟨by simp only [h], hkeeps.trans hkept⟩⟩

end Banter.Brain
