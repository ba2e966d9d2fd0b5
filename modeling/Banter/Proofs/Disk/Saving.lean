import Banter.Proofs.BrainFile.Pieces
import Banter.Proofs.Disk.Drafts
import Banter.Storage

/-!
# Saving a brain

Once a file could be saved at a path, any brain that has a file can be saved there and is found there
afterwards. Saving leaves the folders as they are, but for those on the path that it makes the first time.
-/

namespace Banter

variable {disk other made saved : Disk} {path : String} {target : List String}

namespace Errand

theorem makeFoldersAlong_of_hasFolder {way : List String} {outer : List (List String)}
    (h : disk.HasFolder (Path.ofWay way)) :
    (makeFoldersAlong (way :: outer)).onDisk disk = (.ok (), disk) := by
  simp only [makeFoldersAlong, onDisk, h.makeFolder]

theorem hasFolder_of_makeFoldersAlong {way : List String} {outer : List (List String)}
    (h : (makeFoldersAlong (way :: outer)).onDisk disk = (.ok (), made)) :
    made.HasFolder (Path.ofWay way) := by
  rw [makeFoldersAlong, onDisk] at h
  cases hfirst : disk.makeFolder (Path.ofWay way) with
  | mk answer after =>
    rw [hfirst] at h
    dsimp only at h
    split at h
    next =>
      rw [onDisk_andThen] at h
      split at h
      next => exact Disk.hasFolder_of_makeFolder h
      next => exact absurd h (by simp [onDisk])
    next =>
      obtain ⟨rfl, rfl⟩ := Prod.mk.inj h
      exact Disk.hasFolder_of_makeFolder hfirst

end Errand

namespace Disk

/-- Whether the folder at a path is there, unless the path names none. -/
def HasFolders (disk : Disk) (path : String) : Prop :=
  Path.ways path = [] ∨ disk.HasFolder (Path.ofWay (Path.steps path).reverse)

theorem hasFolders_of_makeFolders (h : (Errand.makeFolders path).onDisk disk = (.ok (), made)) :
    made.HasFolders path := by
  unfold Errand.makeFolders at h
  split at h
  next hnone => exact Or.inl hnone
  next => exact Or.inr (Errand.hasFolder_of_makeFoldersAlong h)

theorem HasFolders.makeFolders (h : disk.HasFolders path) :
    (Errand.makeFolders path).onDisk disk = (.ok (), disk) := by
  unfold Errand.makeFolders
  split
  next => rfl
  next hsome =>
    rcases h with hnone | hfolder
    · rw [hsome] at hnone
      exact absurd hnone (by simp)
    · exact Errand.makeFoldersAlong_of_hasFolder hfolder

/-- Whether a file can be replaced at a path, whose folder is there and has room for a draft. -/
structure IsReadyFor (disk : Disk) (path : String) (target : List String) : Prop where
  folders : disk.HasFolders (Path.folder path)
  room : (disk.fromTop (Path.folder path)).utf8ByteSize + Path.draftBytes < Path.bytesLimit
  draft : ∃ names, disk.followInto (disk.start (Path.isFromTop (Path.folder path)))
    (Path.steps (Path.folder path)) = .ok names
  place : disk.place path = .ok target

theorem IsReadyFor.same (h : disk.IsReadyFor path target) (hsame : disk.SameFolders other) :
    other.IsReadyFor path target where
  folders := h.folders.imp_right hsame.1.hasFolder
  room := by
    have hroom := h.room
    rwa [fromTop, ← hsame.1.present] at hroom
  draft := by
    obtain ⟨names, hnames⟩ := h.draft
    rw [hsame.1.start]
    exact ⟨names, hsame.1.follow hnames⟩
  place := hsame.place h.place

/-- Whether a file can be saved at a path, after making the folders on the way. -/
def CanSave (disk : Disk) (path : String) : Prop :=
  ∃ made target, (Errand.makeFolders (Path.folder path)).onDisk disk = (.ok (), made) ∧
    made.IsReadyFor path target

theorem IsReadyFor.canSave (h : disk.IsReadyFor path target) : disk.CanSave path :=
  ⟨disk, target, h.folders.makeFolders, h⟩

theorem read_of_place {content : List UInt8} (hplace : disk.place path = .ok target)
    (hentry : disk.entry? target = some (.file content)) : disk.read path = .ok content := by
  simp only [read, resolve_of_place hplace, bind, Except.bind, hentry]
  rfl

theorem IsReadyFor.exists_draft (h : disk.IsReadyFor path target) : ∃ draft, disk.IsFreeFor draft ∧
    disk.openDraft (Path.folder path) = (.ok draft, disk.put draft.names (.file [])) := by
  obtain ⟨names, hnames⟩ := h.draft
  rcases disk.openDraft_cases (Path.folder path) with ⟨trouble, hopen⟩ | hopen
  · rw [openDraft, if_neg (Nat.not_le.mpr h.room), hnames] at hopen
    exact absurd hopen (by simp)
  · exact hopen

theorem isReadyFor_of_openDraft {draft : Draft} {opened : Disk} (hfolders : disk.HasFolders (Path.folder path))
    (hopen : disk.openDraft (Path.folder path) = (.ok draft, opened)) (hplace : disk.place path = .ok target) :
    disk.IsReadyFor path target := by
  unfold openDraft at hopen
  split at hopen
  next => exact absurd hopen (by simp)
  next hroom =>
    split at hopen
    next names hnames => exact ⟨hfolders, Nat.not_le.mp hroom, ⟨names, hnames⟩, hplace⟩
    next => exact absurd hopen (by simp)

end Disk

namespace Brain

open BrainFile

/-- Where a file can be replaced, it is, and nothing else changes, unless the writing ends with a fault. -/
theorem onDisk_replaceFile (h : disk.IsReadyFor path target) (output : Output) :
    (replaceFile path output).onDisk disk =
      match output.fault? with
      | none => (.ok (), disk.put target (.file output.bytes))
      | some fault => (.error fault, disk) := by
  obtain ⟨draft, hfree, hopen⟩ := h.exists_draft
  simp only [replaceFile, Errand.onDisk, hopen, Disk.fillDraft, Disk.put_put]
  cases output.fault? with
  | none => simp only [Errand.onDisk, hfree.promote_of_place h.place]
  | some fault => simp only [Errand.onDisk, hfree.remove_put]

theorem isReadyFor_of_replaceFile {output : Output} (hfolders : disk.HasFolders (Path.folder path))
    (h : ((replaceFile path output).onDisk disk).1 = .ok ()) :
    output.fault? = none ∧ ∃ target, disk.IsReadyFor path target := by
  rcases disk.openDraft_cases (Path.folder path) with ⟨trouble, hopen⟩ | ⟨draft, hfree, hopen⟩
  · simp only [replaceFile, Errand.onDisk, hopen] at h
    exact absurd h (by simp)
  · simp only [replaceFile, Errand.onDisk, hopen, Disk.fillDraft, Disk.put_put] at h
    cases hfault : output.fault? with
    | some fault =>
      simp only [hfault, Errand.onDisk] at h
      exact absurd h (by simp)
    | none =>
      rcases hfree.promote_cases path output.bytes with ⟨target, hplace, _⟩ | ⟨trouble, hpromote⟩
      · exact ⟨rfl, target, Disk.isReadyFor_of_openDraft hfolders hopen hplace⟩
      · simp only [hfault, Errand.onDisk, hpromote] at h
        exact absurd h (by simp)

/-- What saving a brain does: first to the folders, then to the file. -/
theorem onDisk_save (brain : Brain) (path : String) (disk : Disk) :
    (brain.save path).onDisk disk =
      match (Errand.makeFolders (Path.folder path)).onDisk disk with
      | (.error trouble, made) => (.error (.file trouble), made)
      | (.ok (), made) => (replaceFile path (brainOutput brain)).onDisk made := by
  rw [save, Errand.onDisk_bind]
  cases (Errand.makeFolders (Path.folder path)).onDisk disk with
  | mk answer made =>
    cases answer with
    | error trouble => rfl
    | ok => rfl

theorem canSave_of_save {brain : Brain} (h : ((brain.save path).onDisk disk).1 = .ok ()) :
    disk.CanSave path ∧ hasFile brain = true := by
  rw [onDisk_save] at h
  cases hmade : (Errand.makeFolders (Path.folder path)).onDisk disk with
  | mk answer made =>
    cases answer with
    | error trouble =>
      simp only [hmade] at h
      exact absurd h (by simp)
    | ok =>
      simp only [hmade] at h
      obtain ⟨hfault, target, hready⟩ := isReadyFor_of_replaceFile (Disk.hasFolders_of_makeFolders hmade) h
      exact ⟨⟨made, target, hmade, hready⟩, (writes_brainOutput brain).fault?_eq_none_iff.mp hfault⟩

/-- Where a file can be saved, a brain is saved exactly if it has a file. Its file is there then, and a
file can be saved again. -/
theorem onDisk_save_of_canSave (h : disk.CanSave path) (brain : Brain) :
    let result := (brain.save path).onDisk disk
    result.2.CanSave path ∧ (result.1 = .ok () ↔ hasFile brain = true) ∧
      (hasFile brain = true → result.2.read path = .ok (brainBytes brain)) := by
  obtain ⟨made, target, hmade, hready⟩ := h
  have hwrites := writes_brainOutput brain
  simp only [onDisk_save, hmade, onDisk_replaceFile hready, hwrites.fault?]
  by_cases hfile : hasFile brain = true
  · have hfree := Disk.not_folder_of_place hready.place
    have hagain := hready.same (Disk.sameFolders_put_file hfree (brainOutput brain).bytes)
    rw [if_pos hfile]
    refine ⟨hagain.canSave, iff_of_true rfl hfile, fun _ => ?_⟩
    rw [hwrites.bytes hfile] at hagain ⊢
    exact Disk.read_of_place hagain.place (Disk.entry?_put_self (Disk.ne_nil_of_not_folder hfree) _)
  · rw [if_neg hfile]
    exact ⟨hready.canSave, iff_of_false (by simp) hfile, fun hhas => absurd hhas hfile⟩

end Brain

end Banter
