import Banter.Proofs.Disk.Folders

namespace Banter.Disk

variable {disk : Disk} {draft : Draft} {path : String} {target : List String}

theorem ext_entries {a b : Disk} (hpresent : a.present = b.present)
    (hentries : ∀ names : List String, a.entries[names]? = b.entries[names]?) : a = b := by
  cases a
  cases b
  congr
  exact Std.ExtTreeMap.ext_getElem? hentries

theorem put_put (disk : Disk) (names : List String) (old new : Entry) :
    (disk.put names old).put names new = disk.put names new := by
  refine ext_entries rfl fun names' => ?_
  simp only [put, Std.ExtTreeMap.getElem?_insert]
  split <;> rfl

theorem remove_put {names : List String} (hnames : names ≠ []) (hnone : disk.entry? names = none)
    (entry : Entry) : (disk.put names entry).remove names = disk := by
  rw [entry?_eq_getElem? hnames] at hnone
  refine ext_entries rfl fun names' => ?_
  simp only [put, remove, Std.ExtTreeMap.getElem?_erase, Std.ExtTreeMap.getElem?_insert,
    Std.LawfulEqCmp.compare_eq_iff_eq]
  split
  next hsame => rw [← hsame, hnone]
  next => rfl

/-- Whether nothing stands where a draft would be. -/
def IsFreeFor (disk : Disk) (draft : Draft) : Prop :=
  disk.entry? draft.names = none

namespace IsFreeFor

theorem not_folder (h : disk.IsFreeFor draft) : disk.entry? draft.names ≠ some .folder := by
  rw [h]
  exact nofun

theorem ne_nil (h : disk.IsFreeFor draft) : draft.names ≠ [] :=
  ne_nil_of_not_folder h.not_folder

theorem sameFolders (h : disk.IsFreeFor draft) (content : List UInt8) :
    disk.SameFolders (disk.put draft.names (.file content)) :=
  sameFolders_put_file h.not_folder content

theorem remove_put (h : disk.IsFreeFor draft) (content : List UInt8) :
    (disk.put draft.names (.file content)).remove draft.names = disk :=
  Disk.remove_put h.ne_nil h _

theorem promote_of_place (h : disk.IsFreeFor draft) (hplace : disk.place path = .ok target)
    (content : List UInt8) : (disk.put draft.names (.file content)).promote draft path =
      (.ok (), disk.put target (.file content)) := by
  have hentry : Disk.entry? (disk.put draft.names (.file content)) draft.names = some (.file content) :=
    entry?_put_self h.ne_nil _
  simp only [promote, (h.sameFolders content).place hplace, hentry, h.remove_put]

theorem promote_cases (h : disk.IsFreeFor draft) (path : String) (content : List UInt8) :
    (∃ target, disk.place path = .ok target ∧ (disk.put draft.names (.file content)).promote draft path =
      (.ok (), disk.put target (.file content))) ∨
    ∃ trouble, (disk.put draft.names (.file content)).promote draft path =
      (.error trouble, disk.put draft.names (.file content)) := by
  cases hplace : Disk.place (disk.put draft.names (.file content)) path with
  | ok target =>
    have hdisk := (h.sameFolders content).symm.place hplace
    exact Or.inl ⟨target, hdisk, h.promote_of_place hdisk content⟩
  | error trouble => exact Or.inr ⟨trouble, by simp only [promote, hplace]⟩

end IsFreeFor

theorem openDraft_cases (disk : Disk) (folder : String) :
    (∃ trouble, disk.openDraft folder = (.error trouble, disk)) ∨
      ∃ draft, disk.IsFreeFor draft ∧ disk.openDraft folder = (.ok draft, disk.put draft.names (.file [])) := by
  unfold openDraft
  split
  next => exact Or.inl ⟨_, rfl⟩
  next =>
    split
    next names _ => exact Or.inr ⟨⟨names ++ [disk.freshName]⟩, entry?_freshName disk names, rfl⟩
    next trouble _ => exact Or.inl ⟨trouble, rfl⟩

end Banter.Disk
