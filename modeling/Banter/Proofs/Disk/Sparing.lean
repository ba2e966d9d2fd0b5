import Banter.Proofs.Disk.Mishaps
import Banter.Proofs.Disk.Saving

namespace Banter

variable {disk made after : Disk} {path : String}

namespace Disk

/-- Whether a path goes on from one that leads to names. -/
def LeadsThrough (disk : Disk) (path : String) (names : List String) : Prop :=
  ∃ front, Path.GoesOn front path ∧ disk.lead front (Path.namedSteps front) = .ok names

/-- Whether what stands at the end of names is as it was, or is a folder on the way of a path that was added
where there was nothing. -/
def Spares (disk : Disk) (path : String) (after : Disk) (names : List String) : Prop :=
  after.entry? names = disk.entry? names ∨
    disk.entry? names = none ∧ after.entry? names = some .folder ∧ after.LeadsThrough path names

/-- Whether a disk is as it was but for folders that were added on the way of a path. -/
structure AddsParents (disk : Disk) (path : String) (after : Disk) : Prop where
  present : after.present = disk.present
  spares : ∀ names, disk.Spares path after names

theorem Spares.trans {names : List String} (hfirst : disk.Spares path made names)
    (hsecond : made.Spares path after names) (hkeeps : made.KeepsFolders after) :
    disk.Spares path after names := by
  rcases hfirst with hsame | ⟨hnone, hfolder, front, hfront, hlead⟩
  · rcases hsecond with hsame' | ⟨hnone', hadded⟩
    · exact Or.inl (hsame'.trans hsame)
    · exact Or.inr ⟨hsame ▸ hnone', hadded⟩
  · exact Or.inr ⟨hnone, hkeeps.folder names hfolder, front, hfront, hkeeps.lead hlead⟩

theorem AddsParents.refl (disk : Disk) (path : String) : disk.AddsParents path disk :=
  ⟨rfl, fun _ => Or.inl rfl⟩

theorem AddsParents.keepsFolders (h : disk.AddsParents path after) : disk.KeepsFolders after where
  present := h.present
  folder names hfolder := by
    rcases h.spares names with hsame | ⟨hnone, _⟩
    · rw [hsame, hfolder]
    · rw [hnone] at hfolder
      exact absurd hfolder nofun

theorem AddsParents.trans (hfirst : disk.AddsParents path made) (hsecond : made.AddsParents path after) :
    disk.AddsParents path after :=
  ⟨hsecond.present.trans hfirst.present, fun names =>
    (hfirst.spares names).trans (hsecond.spares names) hsecond.keepsFolders⟩

theorem addsParents_makeFolder {front : String} (h : Path.GoesOn front path) :
    disk.AddsParents path (disk.makeFolder front).2 := by
  unfold makeFolder
  split
  next => exact .refl disk path
  next names hlead =>
    split
    next => exact .refl disk path
    next => exact .refl disk path
    next hnone =>
      have hfree : disk.entry? names ≠ some .folder := by simp [hnone]
      refine ⟨rfl, fun names' => ?_⟩
      by_cases hsame : names' = names
      · rw [hsame]
        exact Or.inr ⟨hnone, entry?_put_self (ne_nil_of_not_folder hfree) _, front, h,
          (keepsFolders_put hfree _).lead hlead⟩
      · exact Or.inl (entry?_put_of_ne hsame _)

/-- The present folder is not made, since it could not be reached if it were not there. -/
theorem makeFolder_present (disk : Disk) : (disk.makeFolder ".").2 = disk := by
  have hsteps : Path.namedSteps "." = ["."] := by decide +kernel
  unfold makeFolder
  split
  next => rfl
  next names hlead =>
    rw [hsteps] at hlead
    obtain ⟨_, hfollow⟩ := lead_eq_ok_iff.mp hlead
    obtain ⟨_, hstep, hlast⟩ := bind_eq_ok_iff.mp hfollow
    obtain ⟨hfolder, _, rfl⟩ := goOn_eq_ok_iff.mp hstep
    obtain rfl := Except.ok.inj hlast
    have hthere : disk.entry? (Path.after (disk.start (Path.isFromTop ".")) ".") = some .folder := hfolder
    rw [hthere]

end Disk

namespace Errand

theorem addsParents_of_turnsOut {front : String} {outcome : Except FileTrouble Unit × Disk}
    (h : disk.AddsParents path (disk.makeFolder front).2)
    (houtcome : TurnsOut disk (disk.makeFolder front) outcome) : disk.AddsParents path outcome.2 := by
  rcases houtcome with rfl | ⟨trouble, rfl⟩
  · exact h
  · exact .refl disk path

theorem addsParents_makeFoldersAlong {ways : List (List String)}
    (h : ∀ way ∈ ways, ∀ disk : Disk, disk.AddsParents path (disk.makeFolder (Path.ofWay way)).2)
    {ending : Except FileTrouble Unit × Disk} (hend : (makeFoldersAlong ways).MayEnd disk ending) :
    disk.AddsParents path ending.2 := by
  induction ways generalizing disk ending with
  | nil =>
    cases hend
    exact .refl disk path
  | cons way outer ih =>
    obtain ⟨hway, houter⟩ := List.forall_mem_cons.mp h
    cases hend with
    | makeFolder hturns hrest =>
      have hadds := addsParents_of_turnsOut (hway disk) hturns
      dsimp only at hrest
      split at hrest
      next =>
        obtain ⟨middle, hmiddle, hlast⟩ := exists_middle_of_andThen hrest
        have hadds' := hadds.trans (ih houter hmiddle)
        split at hlast
        next =>
          cases hlast with
          | makeFolder hturns hdone =>
            cases hdone
            exact hadds'.trans (addsParents_of_turnsOut (hway middle.2) hturns)
        next =>
          cases hlast
          exact hadds'
      next =>
        cases hrest
        exact hadds

/-- Making the folder of a path adds folders on the way of the path only. -/
theorem addsParents_makeFolders {ending : Except FileTrouble Unit × Disk}
    (h : (makeFolders (Path.folder path)).MayEnd disk ending) : disk.AddsParents path ending.2 := by
  rcases Path.folder_cases path with hpresent | htop | hgoes
  · have hways : Path.ways "." = [["."]] := by decide +kernel
    have hsteps : (Path.steps ".").reverse = ["."] := by decide +kernel
    rw [hpresent, makeFolders, hways, hsteps] at h
    refine addsParents_makeFoldersAlong ?_ h
    intro way hway disk
    rw [List.mem_singleton.mp hway, show Path.ofWay ["."] = "." by decide +kernel, Disk.makeFolder_present]
    exact .refl disk path
  · have hways : Path.ways "/" = [] := by decide +kernel
    rw [htop, makeFolders, hways] at h
    cases h
    exact .refl disk path
  · unfold makeFolders at h
    split at h
    next =>
      cases h
      exact .refl disk path
    next first outer hways =>
      refine addsParents_makeFoldersAlong (List.forall_mem_cons.mpr ⟨?_, ?_⟩) h
      · intro disk
        exact Disk.addsParents_makeFolder (by rwa [Path.ofWay_steps])
      · intro way hway disk
        exact Disk.addsParents_makeFolder ((Path.goesOn_of_mem_tail_ways (by rwa [hways])).trans hgoes)

end Errand

namespace Brain

open BrainFile

variable {draft : Draft} {target : List String}

/-- A draft that is discarded leaves no trace. -/
theorem eq_of_discard (hfree : disk.IsFreeFor draft) {content : List UInt8} {result : Except Fault Unit}
    {ending : Except Fault Unit × Disk} (h : (Errand.discard draft (.done result)).MayEnd
      (disk.put draft.names (.file content)) ending) : ending = (result, disk) := by
  cases h with
  | discard hrest =>
    cases hrest
    rw [hfree.remove_put]

/-- A draft that was filled is moved to its place, or leaves no trace. -/
theorem promote_mayEnd (hfree : disk.IsFreeFor draft) {content : List UInt8}
    {next : Except FileTrouble Unit → Errand (Except Fault Unit)}
    (hok : next (.ok ()) = .done (.ok ()))
    (herror : ∀ trouble, next (.error trouble) = .discard draft (.done (.error (.file trouble))))
    {ending : Except Fault Unit × Disk} (h : (Errand.promote draft path next).MayEnd
      (disk.put draft.names (.file content)) ending) :
    (∃ fault, ending = (.error fault, disk)) ∨ ∃ target,
      disk.place path = .ok target ∧ ending = (.ok (), disk.put target (.file content)) := by
  cases h with
  | promote hturns hrest =>
    rcases hturns with rfl | ⟨trouble, rfl⟩
    · rcases hfree.promote_cases path content with ⟨target, hplace, hmoved⟩ | ⟨trouble, hstays⟩
      · rw [hmoved, hok] at hrest
        cases hrest
        exact Or.inr ⟨target, hplace, rfl⟩
      · rw [hstays, herror] at hrest
        exact Or.inl ⟨_, eq_of_discard hfree hrest⟩
    · rw [herror] at hrest
      exact Or.inl ⟨_, eq_of_discard hfree hrest⟩

/-- Replacing a file fails and leaves the disk as it was, or puts all of the content in its place. -/
theorem replaceFile_mayEnd {output : Output} {ending : Except Fault Unit × Disk}
    (h : (replaceFile path output).MayEnd disk ending) :
    (∃ fault, ending = (.error fault, disk)) ∨ output.fault? = none ∧ ∃ target,
      disk.place path = .ok target ∧ ending = (.ok (), disk.put target (.file output.bytes)) := by
  rw [replaceFile] at h
  cases h with
  | openDraft hopen h =>
    rcases hopen with hplanned | ⟨trouble, htrouble⟩
    · rcases disk.openDraft_cases (Path.folder path) with ⟨trouble, hopens⟩ | ⟨draft, hfree, hopens⟩
      · rw [hplanned, hopens] at h
        cases h
        exact Or.inl ⟨_, rfl⟩
      · rw [hplanned, hopens] at h
        cases h with
        | fillDraft hfills h =>
          rcases hfills with rfl | ⟨trouble, part, _, rfl⟩
          · simp only [Disk.fillDraft, Disk.put_put] at h
            cases hfault : output.fault? with
            | some fault =>
              rw [hfault] at h
              exact Or.inl ⟨_, eq_of_discard hfree h⟩
            | none =>
              rw [hfault] at h
              exact (promote_mayEnd hfree rfl (fun _ => rfl) h).imp_right fun hplaced => ⟨rfl, hplaced⟩
          · simp only [Disk.fillDraft, Disk.put_put] at h
            exact Or.inl ⟨_, eq_of_discard hfree h⟩
    · rw [htrouble] at h
      cases h
      exact Or.inl ⟨_, rfl⟩

theorem spares_of_put (hadds : disk.AddsParents path made) (hfree : made.entry? target ≠ some .folder)
    (content : List UInt8) {names : List String} (hnames : names ≠ target) :
    disk.Spares path (made.put target (.file content)) names :=
  (hadds.spares names).trans (Or.inl (Disk.entry?_put_of_ne hnames _)) (Disk.keepsFolders_put hfree _)

/-- A brain is saved with all of its file in place and no other file touched, or it is not saved and every file
is as it was. At most folders on the way are added. That holds of the run on the disk, and whatever trouble is
met on the way. -/
theorem save_mayEnd (brain : Brain) (path : String) (disk : Disk) :
    (brain.save path).MayEnd disk ((brain.save path).onDisk disk) ∧
      ∀ result after, (brain.save path).MayEnd disk (result, after) →
        (result = .ok () → ∃ content target, encode brain = .ok content ∧
          after.resolve path = .ok target ∧ after.entry? target = some (.file content) ∧
          disk.entry? target ≠ some .folder ∧ ∀ names ≠ target, disk.Spares path after names) ∧
        (result ≠ .ok () → ∀ names, disk.Spares path after names) := by
  refine ⟨Errand.mayEnd_onDisk _ disk, ?_⟩
  intro result after hends
  obtain ⟨⟨answer, made⟩, hmade, hrest⟩ := Errand.exists_middle_of_andThen hends
  have hadds := Errand.addsParents_makeFolders hmade
  cases answer with
  | error trouble =>
    cases hrest
    exact ⟨nofun, fun _ => hadds.spares⟩
  | ok =>
    rcases replaceFile_mayEnd hrest with ⟨fault, hfails⟩ | ⟨hfault, target, hplace, hsucceeds⟩
    · obtain ⟨rfl, rfl⟩ := Prod.mk.inj hfails
      exact ⟨nofun, fun _ => hadds.spares⟩
    · obtain ⟨rfl, rfl⟩ := Prod.mk.inj hsucceeds
      have hfree := Disk.not_folder_of_place hplace
      have hsame := Disk.sameFolders_put_file hfree (brainOutput brain).bytes
      have hencode : encode brain = .ok (brainOutput brain).bytes := by rw [encode_eq_brainOutput, hfault]
      refine ⟨fun _ => ⟨_, target, hencode, Disk.resolve_of_place (hsame.place hplace),
        Disk.entry?_put_self (Disk.ne_nil_of_not_folder hfree) _,
        fun hfolder => hfree (hadds.keepsFolders.folder target hfolder), fun names hnames =>
          spares_of_put hadds hfree _ hnames⟩, fun hnot => absurd rfl hnot⟩

/-- A file is replaced, and a path below it is refused. -/
theorem save_mayEnd_below_file :
    let disk := Disk.empty.put ["brain.bin"] (.file [7])
    let replaced := (Brain.empty.save "brain.bin").onDisk disk
    let refused := (Brain.empty.save "brain.bin/old").onDisk disk
    replaced.1 = .ok () ∧ (∃ content target, encode .empty = .ok content ∧
      replaced.2.resolve "brain.bin" = .ok target ∧ Disk.entry? replaced.2 target = some (.file content)) ∧
    refused.1 ≠ .ok () ∧ disk.Spares "brain.bin/old" refused.2 ["brain.bin"] := by
  intro disk replaced refused
  have hready : disk.IsReadyFor "brain.bin" ["brain.bin"] :=
    ⟨Or.inr ⟨[], by decide +kernel, rfl⟩, by decide +kernel, ⟨[], by decide +kernel⟩, by decide +kernel⟩
  have hsize : Lexicon.empty.size ≤ countLimit := by decide
  have hfile : hasFile .empty = true := by
    simp [hasFile, fits, Brain.empty, Memory.empty, Trie.empty, Trie.leaf, hsize]
  have hreplaced : replaced.1 = .ok () := (onDisk_save_of_canSave hready.canSave .empty).2.1.mpr hfile
  have hrefused : refused.1 ≠ .ok () := by decide +kernel
  have hfirst := save_mayEnd .empty "brain.bin" disk
  have hsecond := save_mayEnd .empty "brain.bin/old" disk
  obtain ⟨content, target, hencode, hresolve, hentry, _⟩ := (hfirst.2 _ _ hfirst.1).1 hreplaced
  exact ⟨hreplaced, ⟨content, target, hencode, hresolve, hentry⟩, hrefused,
    (hsecond.2 _ _ hsecond.1).2 hrefused _⟩

end Brain

end Banter
