import Banter.Proofs.Brain.Vocabulary
import Banter.Proofs.Disk.Saving
import Banter.Proofs.Reply.Heeding
import Banter.Session

/-!
# What a session does with lines

What lines do to the chat of a session and to the disk does not depend on the dice, nor on what was printed
before. Only saving touches the disk, as long as no line trains from a file.
-/

namespace Banter

/-- What a line gives a chat to read: what it says to the chat, or all of it. -/
def Settings.heard (settings : Settings) (line : String) : String :=
  (settings.spokenTo? (Text.trim line)).getD (Text.trim line)

namespace Chat

/-- A chat by given settings whose brain is sound and has good symbols only. -/
structure IsHeld (settings : Settings) (good : Symbol → Prop) (chat : Chat) : Prop where
  settings : chat.settings = settings
  sound : chat.brain.IsSound
  symbols : chat.brain.lexicon.HoldsOnly good

variable {settings : Settings} {good : Symbol → Prop} {chat : Chat}

theorem IsHeld.forget (h : chat.IsHeld settings good) : chat.forget.IsHeld settings good :=
  ⟨h.settings, Brain.isSound_empty, Lexicon.holdsOnly_empty⟩

theorem IsHeld.weaken (h : chat.IsHeld settings good) : chat.IsHeld settings fun _ => True :=
  ⟨h.settings, h.sound, fun _ _ => trivial⟩

theorem take_of_spokenTo {line text : String} (h : chat.settings.spokenTo? (Text.trim line) = some text)
    (dice : Dice) :
    (chat.take line dice).2.1 = ⟨chat.settings, (chat.brain.heed text dice).2⟩ := by
  obtain ⟨settings, brain⟩ := chat
  simp only [take, h, Brain.heed]

theorem take_of_not_spokenTo {line : String} (h : chat.settings.spokenTo? (Text.trim line) = none)
    (dice : Dice) :
    (chat.take line dice).2.1 = ⟨chat.settings, (chat.brain.learn (Text.trim line)).2⟩ := by
  obtain ⟨settings, brain⟩ := chat
  simp only [take, h]

theorem IsHeld.take (h : chat.IsHeld settings good) (hstop : good .stop) {line : String}
    (hline : ∀ symbol ∈ symbolsOf (settings.heard line), good symbol) (dice : Dice) :
    (chat.take line dice).2.1.IsHeld settings good := by
  obtain ⟨rfl, hsound, hsymbols⟩ := h
  unfold Settings.heard at hline
  cases hspoken : chat.settings.spokenTo? (Text.trim line) with
  | none =>
    rw [hspoken] at hline
    rw [take_of_not_spokenTo hspoken]
    exact ⟨rfl, Brain.isSound_learn hsound _, Brain.holdsOnly_learn hsymbols hstop hline⟩
  | some text =>
    rw [hspoken] at hline
    rw [take_of_spokenTo hspoken]
    exact ⟨rfl, Brain.isSound_reply hsound text dice, Brain.holdsOnly_reply hsymbols hstop hline dice⟩

/-- What taking a line does to a chat does not depend on the dice. -/
theorem take_congr (h : chat.brain.IsSound) (line : String) (first second : Dice) :
    (chat.take line first).2.1 = (chat.take line second).2.1 := by
  cases hspoken : chat.settings.spokenTo? (Text.trim line) with
  | none => rw [take_of_not_spokenTo hspoken, take_of_not_spokenTo hspoken]
  | some text => rw [take_of_spokenTo hspoken, take_of_spokenTo hspoken, h.heed_congr text first second]

end Chat

namespace Session

variable {settings : Settings} {good : Symbol → Prop} {chat middle last : Chat} {disk disk₁ disk₂ : Disk}

/-- Whether a command takes a chat on a disk to another one on another disk, with all dice. -/
def Obeys (command : Command) (chat : Chat) (disk : Disk) (later : Chat) (after : Disk) : Prop :=
  ∀ dice, ∃ printed dice', (obey ⟨chat, dice⟩ command).onDisk disk = ((printed, ⟨later, dice'⟩), after)

/-- Whether lines take a chat on a disk to another one on another disk, with all dice and whatever was
printed before. -/
def Leads (lines : List String) (chat : Chat) (disk : Disk) (later : Chat) (after : Disk) : Prop :=
  ∀ before dice, ∃ printed dice',
    (converse before ⟨chat, dice⟩ (lines.map Text.toUtf8)).onDisk disk = ((printed, ⟨later, dice'⟩), after)

theorem obeys_save (chat : Chat) (disk : Disk) : Obeys .save chat disk chat
    ((chat.brain.save chat.settings.brainFile).onDisk disk).2 := by
  intro dice
  rw [obey, Errand.onDisk_bind, Errand.onDisk_pure, Chat.save]
  exact ⟨_, _, rfl⟩

theorem obeys_say (h : chat.brain.IsSound) (line : String) (dice : Dice) (disk : Disk) :
    Obeys (.say line) chat disk (chat.take line dice).2.1 disk := by
  intro dice'
  rw [obey, Chat.take_congr h line dice dice']
  cases chat.take line dice' with
  | mk result rest => exact ⟨_, _, rfl⟩

/-- What a command does to a chat depends neither on the dice nor on the disk, unless it trains. It keeps
the chat well and a disk fit for saving. -/
theorem exists_obeys (h : chat.IsHeld settings good) (hstop : good .stop) {command : Command}
    (htrain : ∀ path, command ≠ .train path)
    (hsaid : ∀ line, command = .say line → ∀ symbol ∈ symbolsOf (settings.heard line), good symbol) :
    ∃ later, later.IsHeld settings good ∧ ∀ disk, ∃ after, Obeys command chat disk later after ∧
      (disk.CanSave settings.brainFile → after.CanSave settings.brainFile) := by
  have hsame (later : Chat) (hobeys : ∀ disk, Obeys command chat disk later disk) (disk : Disk) :
      ∃ after, Obeys command chat disk later after ∧
        (disk.CanSave settings.brainFile → after.CanSave settings.brainFile) :=
    ⟨disk, hobeys disk, id⟩
  cases command with
  | quit => exact ⟨chat, h, hsame chat fun _ _ => ⟨_, _, rfl⟩⟩
  | stats => exact ⟨chat, h, hsame chat fun _ _ => ⟨_, _, rfl⟩⟩
  | statsJson => exact ⟨chat, h, hsame chat fun _ _ => ⟨_, _, rfl⟩⟩
  | save =>
    refine ⟨chat, h, ?_⟩
    intro disk
    have hobeys := obeys_save chat disk
    rw [h.settings] at hobeys
    exact ⟨_, hobeys, fun hcan => (Brain.onDisk_save_of_canSave hcan chat.brain).1⟩
  | forget => exact ⟨chat.forget, h.forget, hsame chat.forget fun _ _ => ⟨_, _, rfl⟩⟩
  | train path => exact absurd rfl (htrain path)
  | say line =>
    have htake := h.take hstop (hsaid line rfl) (.mixed 0)
    exact ⟨_, htake, hsame _ (obeys_say h.sound line (.mixed 0))⟩

theorem onDisk_converse_cons (printed : String) (session : Session) (line : String)
    (lines : List (List UInt8)) (disk : Disk) :
    (converse printed session (Text.toUtf8 line :: lines)).onDisk disk =
      if Command.ofLine line = .quit then ((printed ++ prompt, session), disk)
      else
        let result := (session.obey (Command.ofLine line)).onDisk disk
        (converse (printed ++ prompt ++ result.1.1) result.1.2 lines).onDisk result.2 := by
  rw [converse, Errand.onDisk_bind, hear, Text.ofUtf8?_toUtf8, Option.map_some]
  by_cases hquit : Command.ofLine line = .quit
  · rw [if_pos hquit, hquit]
    rfl
  · rw [if_neg hquit]
    cases hcommand : Command.ofLine line with
    | quit => exact absurd hcommand hquit
    | _ => rw [Errand.onDisk_bind, Errand.onDisk_pure]

theorem leads_nil (chat : Chat) (disk : Disk) : Leads [] chat disk chat disk :=
  fun _ dice => ⟨_, dice, rfl⟩

theorem leads_cons_of_quit {line : String} (h : Command.ofLine line = .quit) (lines : List String)
    (chat : Chat) (disk : Disk) : Leads (line :: lines) chat disk chat disk := by
  intro before dice
  rw [List.map_cons, onDisk_converse_cons, if_pos h]
  exact ⟨_, dice, rfl⟩

theorem leads_cons {line : String} {lines : List String} (hquit : Command.ofLine line ≠ .quit)
    (hline : Obeys (Command.ofLine line) chat disk middle disk₁)
    (hlines : Leads lines middle disk₁ last disk₂) :
    Leads (line :: lines) chat disk last disk₂ := by
  intro before dice
  obtain ⟨printed, dice', hobey⟩ := hline dice
  rw [List.map_cons, onDisk_converse_cons, if_neg hquit, hobey]
  exact hlines _ dice'

/-- What lines do to a chat depends neither on the dice nor on the disk, if none of them trains. They keep
the chat well and a disk fit for saving. -/
theorem exists_leads (h : chat.IsHeld settings good) (hstop : good .stop) {lines : List String}
    (htrain : ∀ line ∈ lines, ∀ path, Command.ofLine line ≠ .train path)
    (hsaid : ∀ line ∈ lines, ∀ said, Command.ofLine line = .say said →
      ∀ symbol ∈ symbolsOf (settings.heard said), good symbol) :
    ∃ later, later.IsHeld settings good ∧ ∀ disk, ∃ after, Leads lines chat disk later after ∧
      (disk.CanSave settings.brainFile → after.CanSave settings.brainFile) := by
  induction lines generalizing chat with
  | nil => exact ⟨chat, h, fun disk => ⟨disk, leads_nil chat disk, id⟩⟩
  | cons line lines ih =>
    obtain ⟨htrainLine, htrainLines⟩ := List.forall_mem_cons.mp htrain
    obtain ⟨hsaidLine, hsaidLines⟩ := List.forall_mem_cons.mp hsaid
    by_cases hquit : Command.ofLine line = .quit
    · exact ⟨chat, h, fun disk => ⟨disk, leads_cons_of_quit hquit lines chat disk, id⟩⟩
    · obtain ⟨middle, hmiddle, hobeys⟩ := exists_obeys h hstop htrainLine hsaidLine
      obtain ⟨last, hlast, hleads⟩ := ih hmiddle htrainLines hsaidLines
      refine ⟨last, hlast, ?_⟩
      intro disk
      obtain ⟨disk₁, hline, hcan₁⟩ := hobeys disk
      obtain ⟨disk₂, hlines, hcan₂⟩ := hleads disk₁
      exact ⟨disk₂, leads_cons hquit hline hlines, fun hcan => hcan₂ (hcan₁ hcan)⟩

theorem onDisk_converse_append {first : List String} (hquit : ∀ line ∈ first, Command.ofLine line ≠ .quit)
    (second : List (List UInt8)) (printed : String) (session : Session) (disk : Disk) :
    let result := (converse printed session (first.map Text.toUtf8)).onDisk disk
    ∃ before, (converse printed session (first.map Text.toUtf8 ++ second)).onDisk disk =
      (converse before result.1.2 second).onDisk result.2 := by
  induction first generalizing printed session disk with
  | nil => exact ⟨printed, rfl⟩
  | cons line first ih =>
    obtain ⟨hquitLine, hquitFirst⟩ := List.forall_mem_cons.mp hquit
    rw [List.map_cons, List.cons_append, onDisk_converse_cons, onDisk_converse_cons, if_neg hquitLine,
      if_neg hquitLine]
    exact ih hquitFirst _ _ _

/-- Lines lead on from where others have led, unless those quit. -/
theorem Leads.append {first second : List String} (hquit : ∀ line ∈ first, Command.ofLine line ≠ .quit)
    (hfirst : Leads first chat disk middle disk₁) (hsecond : Leads second middle disk₁ last disk₂) :
    Leads (first ++ second) chat disk last disk₂ := by
  intro before dice
  obtain ⟨printed, dice', htalk⟩ := hfirst before dice
  obtain ⟨between, hrest⟩ := onDisk_converse_append hquit (second.map Text.toUtf8) before ⟨chat, dice⟩ disk
  rw [htalk] at hrest
  rw [List.map_append, hrest]
  exact hsecond between dice'

end Session

end Banter
