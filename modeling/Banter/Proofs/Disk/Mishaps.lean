import Banter.Errand

/-!
# Errands that may meet trouble

A disk can be full, worn or closed to the user, so that any use of it may fail although the disk of the model
would allow it. A use that fails leaves the disk as it is, but for a draft that was filled in part. What is shown
of all endings of an errand holds of its run on the disk in particular.
-/

namespace Banter.Errand

variable {α β γ : Type} {disk : Disk}

/-- Whether a use of files turns out as it would on the disk, or fails and leaves the disk as it is. -/
def TurnsOut (disk : Disk) (planned outcome : Except FileTrouble γ × Disk) : Prop :=
  outcome = planned ∨ ∃ trouble, outcome = (.error trouble, disk)

/-- Whether a draft is filled, or filled in part before there is trouble. -/
def Fills (disk : Disk) (draft : Draft) (content : List UInt8) (outcome : Except FileTrouble Unit × Disk) :
    Prop :=
  outcome = disk.fillDraft draft content ∨
    ∃ trouble part, part <+: content ∧ outcome = (.error trouble, (disk.fillDraft draft part).2)

/-- An errand on a disk may end with a result on another disk. -/
inductive MayEnd : Errand α → Disk → α × Disk → Prop where
  | done (result : α) (disk : Disk) : MayEnd (done result) disk (result, disk)
  | read {path next} {disk : Disk} {outcome ending} (hturns : TurnsOut disk (disk.read path, disk) outcome)
      (hrest : MayEnd (next outcome.1) outcome.2 ending) : MayEnd (read path next) disk ending
  | makeFolder {path next} {disk : Disk} {outcome ending} (hturns : TurnsOut disk (disk.makeFolder path) outcome)
      (hrest : MayEnd (next outcome.1) outcome.2 ending) : MayEnd (makeFolder path next) disk ending
  | openDraft {folder next} {disk : Disk} {outcome ending} (hturns : TurnsOut disk (disk.openDraft folder) outcome)
      (hrest : MayEnd (next outcome.1) outcome.2 ending) : MayEnd (openDraft folder next) disk ending
  | fillDraft {draft content next} {disk : Disk} {outcome ending} (hfills : Fills disk draft content outcome)
      (hrest : MayEnd (next outcome.1) outcome.2 ending) : MayEnd (fillDraft draft content next) disk ending
  | promote {draft path next} {disk : Disk} {outcome ending}
      (hturns : TurnsOut disk (disk.promote draft path) outcome)
      (hrest : MayEnd (next outcome.1) outcome.2 ending) : MayEnd (promote draft path next) disk ending
  | discard {draft} {next : Errand α} {disk : Disk} {ending}
      (hrest : MayEnd next (disk.remove draft.names) ending) : MayEnd (discard draft next) disk ending

theorem turnsOut_planned (disk : Disk) (planned : Except FileTrouble γ × Disk) :
    TurnsOut disk planned planned :=
  Or.inl rfl

/-- A run on the disk is one without further trouble. -/
theorem mayEnd_onDisk (errand : Errand α) (disk : Disk) : errand.MayEnd disk (errand.onDisk disk) := by
  induction errand generalizing disk with
  | done result => exact .done result disk
  | read path next ih => exact .read (turnsOut_planned disk _) (ih _ disk)
  | makeFolder path next ih => exact .makeFolder (turnsOut_planned disk _) (ih _ _)
  | openDraft folder next ih => exact .openDraft (turnsOut_planned disk _) (ih _ _)
  | fillDraft draft content next ih => exact .fillDraft (Or.inl rfl) (ih _ _)
  | promote draft path next ih => exact .promote (turnsOut_planned disk _) (ih _ _)
  | discard draft next ih => exact .discard (ih _)

theorem exists_middle_of_andThen {errand : Errand α} {following : α → Errand β} {ending : β × Disk}
    (h : (errand.andThen following).MayEnd disk ending) :
    ∃ middle, errand.MayEnd disk middle ∧ (following middle.1).MayEnd middle.2 ending := by
  induction errand generalizing disk with
  | done result => exact ⟨_, .done result disk, h⟩
  | read path next ih =>
    cases h with
    | read hturns hrest =>
      obtain ⟨middle, hfirst, hsecond⟩ := ih _ hrest
      exact ⟨middle, .read hturns hfirst, hsecond⟩
  | makeFolder path next ih =>
    cases h with
    | makeFolder hturns hrest =>
      obtain ⟨middle, hfirst, hsecond⟩ := ih _ hrest
      exact ⟨middle, .makeFolder hturns hfirst, hsecond⟩
  | openDraft folder next ih =>
    cases h with
    | openDraft hturns hrest =>
      obtain ⟨middle, hfirst, hsecond⟩ := ih _ hrest
      exact ⟨middle, .openDraft hturns hfirst, hsecond⟩
  | fillDraft draft content next ih =>
    cases h with
    | fillDraft hfills hrest =>
      obtain ⟨middle, hfirst, hsecond⟩ := ih _ hrest
      exact ⟨middle, .fillDraft hfills hfirst, hsecond⟩
  | promote draft path next ih =>
    cases h with
    | promote hturns hrest =>
      obtain ⟨middle, hfirst, hsecond⟩ := ih _ hrest
      exact ⟨middle, .promote hturns hfirst, hsecond⟩
  | discard draft next ih =>
    cases h with
    | discard hrest =>
      obtain ⟨middle, hfirst, hsecond⟩ := ih hrest
      exact ⟨middle, .discard hfirst, hsecond⟩

end Banter.Errand
