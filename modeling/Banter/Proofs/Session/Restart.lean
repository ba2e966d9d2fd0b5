import Banter.Proofs.BrainFile.NormalForm
import Banter.Proofs.Disk.Saving
import Banter.Proofs.Session.Talk

namespace Banter.Session

open BrainFile (HasShortText brainBytes)

variable {settings : Settings} {disk : Disk}

theorem isHeld_of_loadOrEmpty {path : String} {brain : Brain}
    (h : ((Brain.loadOrEmpty path).onDisk disk).1 = .ok brain) :
    brain.IsSound ∧ brain.lexicon.HoldsOnly HasShortText := by
  rw [Brain.loadOrEmpty, Errand.onDisk] at h
  split at h
  next content _ =>
    exact ⟨BrainFile.isSound_of_decode h, (BrainFile.shortens_decode h).2.1.short⟩
  next => exact absurd h (by simp [Errand.onDisk])
  next =>
    obtain rfl := Except.ok.inj h
    exact ⟨Brain.isSound_empty, Lexicon.holdsOnly_empty⟩

theorem onDisk_loadOrEmpty (path : String) (disk : Disk) :
    ((Brain.loadOrEmpty path).onDisk disk).2 = disk := by
  rw [Brain.loadOrEmpty, Errand.onDisk]
  split <;> rfl

theorem onDisk_start (settings : Settings) (dice : Dice) (disk : Disk) :
    (start settings dice).onDisk disk = (((Brain.loadOrEmpty settings.brainFile).onDisk disk).1.map
      fun brain => ⟨⟨settings, brain⟩, dice⟩, disk) := by
  rw [start, Errand.onDisk_bind, Chat.start, Errand.onDisk_bind, onDisk_loadOrEmpty]
  cases ((Brain.loadOrEmpty settings.brainFile).onDisk disk).1 with
  | error fault => rfl
  | ok brain => rfl

theorem onDisk_finish {chat : Chat} {answer : Except Fault Unit} {saved : Disk}
    (hsave : chat.save.onDisk disk = (answer, saved)) (dice : Dice) :
    (finish ⟨chat, dice⟩).onDisk disk =
      (answer.map fun () => "Brain saved to '" ++ chat.settings.brainFile ++ "'\n", saved) := by
  rw [finish, Errand.onDisk_bind, hsave]
  cases answer <;> rfl

/-- A session takes the lines and saves the brain then, if it has a brain to begin with. -/
theorem onDisk_hold {brain : Brain} {lines : List String} {later : Chat} {after saved : Disk}
    {answer : Except Fault Unit}
    (hload : ((Brain.loadOrEmpty settings.brainFile).onDisk disk).1 = .ok brain)
    (hleads : Leads lines ⟨settings, brain⟩ disk later after)
    (hsave : later.save.onDisk after = (answer, saved)) (dice : Dice) :
    ∃ outcome, (hold settings (lines.map Text.toUtf8) dice).onDisk disk = (outcome, saved) ∧
      (outcome.succeeds = true ↔ answer = .ok ()) := by
  obtain ⟨printed, dice', htalk⟩ := hleads (greeting ⟨⟨settings, brain⟩, dice⟩) dice
  rw [hold, Errand.onDisk_bind, onDisk_start, hload, Except.map, proceed, Errand.onDisk_bind, htalk]
  dsimp only
  rw [Errand.onDisk_bind, onDisk_finish hsave dice']
  cases answer with
  | error fault => exact ⟨_, rfl, by simp⟩
  | ok => exact ⟨_, rfl, by simp⟩

theorem exists_brain_of_hold {lines : List (List UInt8)} {dice : Dice}
    (h : ((hold settings lines dice).onDisk disk).1.succeeds = true) :
    ∃ brain, ((Brain.loadOrEmpty settings.brainFile).onDisk disk).1 = .ok brain := by
  rw [hold, Errand.onDisk_bind, onDisk_start] at h
  cases hload : ((Brain.loadOrEmpty settings.brainFile).onDisk disk).1 with
  | ok brain => exact ⟨brain, rfl⟩
  | error fault =>
    rw [hload] at h
    exact absurd h (by simp [Except.map, proceed, Errand.onDisk_pure])

/-- A brain is read back from the file that it was saved in. -/
theorem loadOrEmpty_of_read {path : String} {brain : Brain} (hsound : brain.IsSound)
    (hshort : brain.lexicon.HoldsOnly HasShortText) (hsize : brain.lexicon.size ≤ 65535)
    (hread : disk.read path = .ok (brainBytes brain)) :
    ((Brain.loadOrEmpty path).onDisk disk).1 = .ok brain := by
  have hfile := (BrainFile.hasFile_iff_of_isSound hsound).mpr hsize
  have hdecode := (BrainFile.settles_decode (hsound.sorted .onward) (hsound.sorted .backward) hfile).1
    ⟨hsound.shallow, hsound.listed, hshort⟩
  rw [Brain.loadOrEmpty, Errand.onDisk, hread]
  exact hdecode

section Led

variable {good : Symbol → Prop} {brain : Brain} {lines : List String} {later : Chat} {after : Disk}
  {dice : Dice}

theorem canSave_of_hold (hload : ((Brain.loadOrEmpty settings.brainFile).onDisk disk).1 = .ok brain)
    (hleads : Leads lines ⟨settings, brain⟩ disk later after) (hsettings : later.settings = settings)
    (hends : ((hold settings (lines.map Text.toUtf8) dice).onDisk disk).1.succeeds = true) :
    after.CanSave settings.brainFile := by
  cases hsave : later.save.onDisk after with
  | mk answer saved =>
    obtain ⟨outcome, hhold, hsucceeds⟩ := onDisk_hold hload hleads hsave dice
    rw [hhold] at hends
    obtain rfl := hsucceeds.mp hends
    have hsaved := congrArg Prod.fst hsave
    rw [Chat.save, hsettings] at hsaved
    exact (Brain.canSave_of_save hsaved).1

/-- Where its brain can be saved in the end, a session succeeds unless that brain has a full lexicon. -/
theorem onDisk_hold_of_canSave
    (hload : ((Brain.loadOrEmpty settings.brainFile).onDisk disk).1 = .ok brain)
    (hleads : Leads lines ⟨settings, brain⟩ disk later after) (hheld : later.IsHeld settings good)
    (hcan : after.CanSave settings.brainFile) (dice : Dice) :
    let result := (hold settings (lines.map Text.toUtf8) dice).onDisk disk
    result.2.CanSave settings.brainFile ∧
      (result.1.succeeds = true ↔ later.brain.lexicon.size ≤ 65535) ∧
      (result.1.succeeds = true →
        result.2.read settings.brainFile = .ok (brainBytes later.brain)) := by
  have hsaves := Brain.onDisk_save_of_canSave hcan later.brain
  cases hsave : later.save.onDisk after with
  | mk answer saved =>
    obtain ⟨outcome, hhold, hsucceeds⟩ := onDisk_hold hload hleads hsave dice
    rw [Chat.save, hheld.settings] at hsave
    rw [hsave] at hsaves
    obtain ⟨hagain, hanswer, hread⟩ := hsaves
    have hfile := hsucceeds.trans hanswer
    rw [hhold]
    exact ⟨hagain, hfile.trans (BrainFile.hasFile_iff_of_isSound hheld.sound), fun h => hread (hfile.mp h)⟩

end Led

/-- A session over some lines that ends well, and then one over more lines, come to the same as one session
over all of them: they succeed alike, and leave the same brain file. -/
theorem hold_append (settings : Settings) (disk : Disk) (first second : List String)
    (dice dice₁ dice₂ : Dice)
    (hquit : ∀ line ∈ first, Command.ofLine line ≠ .quit)
    (htrain : ∀ line ∈ first ++ second, ∀ path, Command.ofLine line ≠ .train path)
    (hshort : ∀ line ∈ first, ∀ said, Command.ofLine line = .say said →
      ∀ symbol ∈ symbolsOf (settings.heard said), HasShortText symbol)
    (hends : ((hold settings (first.map Text.toUtf8) dice₁).onDisk disk).1.succeeds = true) :
    let once := (hold settings ((first ++ second).map Text.toUtf8) dice).onDisk disk
    let twice := (hold settings (second.map Text.toUtf8) dice₂).onDisk
      ((hold settings (first.map Text.toUtf8) dice₁).onDisk disk).2
    twice.1.succeeds = once.1.succeeds ∧
      (once.1.succeeds = true → ∃ content, once.2.read settings.brainFile = .ok content ∧
        twice.2.read settings.brainFile = .ok content) := by
  obtain ⟨brain, hload⟩ := exists_brain_of_hold hends
  obtain ⟨hsound, hsymbols⟩ := isHeld_of_loadOrEmpty hload
  have hheld : Chat.IsHeld settings HasShortText ⟨settings, brain⟩ := ⟨rfl, hsound, hsymbols⟩
  obtain ⟨htrainFirst, htrainSecond⟩ := List.forall_mem_append.mp htrain
  dsimp only
  -- The first session ends with a brain that is read back from its file.
  obtain ⟨chat₁, hheld₁, hleads₁⟩ := exists_leads hheld trivial htrainFirst hshort
  obtain ⟨disk₁, hfirst, _⟩ := hleads₁ disk
  have hcan₁ := canSave_of_hold hload hfirst hheld₁.settings hends
  obtain ⟨hcan, hsize₁, hread₁⟩ := onDisk_hold_of_canSave hload hfirst hheld₁ hcan₁ dice₁
  have hload₁ := loadOrEmpty_of_read hheld₁.sound hheld₁.symbols (hsize₁.mp hends) (hread₁ hends)
  -- The other lines do the same to that brain, whether it was saved or not.
  obtain ⟨chat₂, hheld₂, hleads₂⟩ := exists_leads hheld₁.weaken trivial htrainSecond
    fun _ _ _ _ _ _ => trivial
  obtain ⟨disk₂, hsecond, hcan₂⟩ := hleads₂ disk₁
  obtain ⟨disk₃, hsecond', hcan₃⟩ := hleads₂ _
  have hchat₁ : chat₁ = ⟨settings, chat₁.brain⟩ := by rw [← hheld₁.settings]
  rw [hchat₁] at hsecond'
  obtain ⟨_, honce, honceRead⟩ := onDisk_hold_of_canSave hload (hfirst.append hquit hsecond) hheld₂
    (hcan₂ hcan₁) dice
  obtain ⟨_, htwice, htwiceRead⟩ := onDisk_hold_of_canSave hload₁ hsecond' hheld₂ (hcan₃ hcan) dice₂
  refine ⟨Bool.eq_iff_iff.mpr (htwice.trans honce.symm), ?_⟩
  intro hsucceeds
  exact ⟨brainBytes chat₂.brain, honceRead hsucceeds, htwiceRead (htwice.mpr (honce.mp hsucceeds))⟩

private theorem canSave_empty : Disk.empty.CanSave Settings.usual.brainFile :=
  Disk.IsReadyFor.canSave ⟨Or.inr ⟨[], by decide +kernel, rfl⟩, by decide +kernel, ⟨[], by decide +kernel⟩,
    show Disk.empty.place "brain.bin" = .ok ["brain.bin"] by decide +kernel⟩

private theorem succeeds_on_empty {lines : List String} (dice : Dice)
    (htrain : ∀ line ∈ lines, ∀ path, Command.ofLine line ≠ .train path)
    (hsize : ((converse "" ⟨⟨.usual, .empty⟩, dice⟩ (lines.map Text.toUtf8)).onDisk
      .empty).1.2.chat.brain.lexicon.size ≤ 65535) :
    ((hold .usual (lines.map Text.toUtf8) dice).onDisk .empty).1.succeeds = true := by
  have hread : Disk.empty.read Settings.usual.brainFile = .error .notFound := by decide +kernel
  have hload : ((Brain.loadOrEmpty Settings.usual.brainFile).onDisk .empty).1 = .ok .empty := by
    rw [Brain.loadOrEmpty, Errand.onDisk, hread]
    rfl
  have hheld : Chat.IsHeld .usual (fun _ => True) ⟨.usual, .empty⟩ :=
    ⟨rfl, Brain.isSound_empty, fun _ _ => trivial⟩
  obtain ⟨later, hlater, hleads⟩ := exists_leads hheld trivial htrain fun _ _ _ _ _ _ => trivial
  obtain ⟨after, hafter, hcan⟩ := hleads .empty
  obtain ⟨printed, dice', htalk⟩ := hafter "" dice
  rw [htalk] at hsize
  exact (onDisk_hold_of_canSave hload hafter hlater (hcan canSave_empty) dice).2.1.mpr hsize

theorem hold_append_questions :
    let first := ["hello", ":clear", "Come and see it.", "CHATTER: see?"]
    let second := [":stats", "chatter, come", ":quit", "never heard"]
    let once := (hold .usual ((first ++ second).map Text.toUtf8) (.mixed 1)).onDisk .empty
    let twice := (hold .usual (second.map Text.toUtf8) (.mixed 3)).onDisk
      ((hold .usual (first.map Text.toUtf8) (.mixed 2)).onDisk .empty).2
    once.1.succeeds = true ∧ twice.1.succeeds = once.1.succeeds ∧
      ∃ content, once.2.read "brain.bin" = .ok content ∧ twice.2.read "brain.bin" = .ok content := by
  intro first second
  have htrainCheck : ∀ line ∈ first ++ second,
      (match Command.ofLine line with | .train _ => false | _ => true) = true := by
    decide +kernel
  have htrain : ∀ line ∈ first ++ second, ∀ path, Command.ofLine line ≠ .train path := by
    intro line hline path hpath
    have hcheck := htrainCheck line hline
    rw [hpath] at hcheck
    exact absurd hcheck (by simp)
  have hshortCheck : ∀ line ∈ first, (match Command.ofLine line with
      | .say said => decide (∀ symbol ∈ symbolsOf (Settings.usual.heard said), HasShortText symbol)
      | _ => true) = true := by
    decide +kernel
  have hshort : ∀ line ∈ first, ∀ said, Command.ofLine line = .say said →
      ∀ symbol ∈ symbolsOf (Settings.usual.heard said), HasShortText symbol := by
    intro line hline said hsaid
    have hcheck := hshortCheck line hline
    rw [hsaid] at hcheck
    exact of_decide_eq_true hcheck
  have hends : ((hold .usual (first.map Text.toUtf8) (.mixed 2)).onDisk .empty).1.succeeds = true :=
    succeeds_on_empty (.mixed 2) (List.forall_mem_append.mp htrain).1 (by decide +kernel)
  have hsame := hold_append .usual .empty first second (.mixed 1) (.mixed 2) (.mixed 3) (by decide +kernel)
    htrain hshort hends
  have hsucceeds := succeeds_on_empty (.mixed 1) htrain (by decide +kernel)
  dsimp only
  exact ⟨hsucceeds, hsame.1, hsame.2 hsucceeds⟩

end Banter.Session
