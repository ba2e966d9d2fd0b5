import Mathlib.Algebra.Order.BigOperators.Group.List
import Mathlib.Algebra.Order.Group.Nat
import Mathlib.Tactic.SplitIfs
import Banter.Disk
import Banter.Proofs.Path.Parents

namespace Banter.Disk

variable {disk other older newer : Disk}

/-- What was a folder is one still, and so is the present folder. -/
structure KeepsFolders (older newer : Disk) : Prop where
  present : newer.present = older.present
  folder : ∀ names, older.entry? names = some .folder → newer.entry? names = some .folder

def SameFolders (disk other : Disk) : Prop :=
  disk.KeepsFolders other ∧ other.KeepsFolders disk

/-- Whether a path is one that can lead anywhere. -/
def IsUsable (path : String) : Prop :=
  Path.holdsNull path = false ∧ path.isEmpty = false ∧ path.utf8ByteSize < Path.bytesLimit

theorem SameFolders.symm (h : disk.SameFolders other) : other.SameFolders disk :=
  ⟨h.2, h.1⟩

theorem entry?_eq_getElem? {names : List String} (h : names ≠ []) :
    disk.entry? names = disk.entries[names]? := by
  cases names with
  | nil => exact absurd rfl h
  | cons name names => rfl

theorem ne_nil_of_not_folder {names : List String} (h : disk.entry? names ≠ some .folder) :
    names ≠ [] := by
  rintro rfl
  exact h rfl

theorem entry?_put_self {names : List String} (h : names ≠ []) (entry : Entry) :
    entry? (disk.put names entry) names = some entry := by
  rw [entry?_eq_getElem? h]
  simp [put]

theorem entry?_put_of_ne {names names' : List String} (h : names' ≠ names) (entry : Entry) :
    entry? (disk.put names entry) names' = disk.entry? names' := by
  cases names' with
  | nil => rfl
  | cons name rest => simp [ entry?, put, Std.ExtTreeMap.getElem?_insert, h.symm]

theorem keepsFolders_put {names : List String} (h : disk.entry? names ≠ some .folder) (entry : Entry) :
    disk.KeepsFolders (disk.put names entry) where
  present := rfl
  folder names' hfolder := by
    rw [entry?_put_of_ne, hfolder]
    rintro rfl
    exact h hfolder

theorem sameFolders_put_file {names : List String} (h : disk.entry? names ≠ some .folder)
    (content : List UInt8) : disk.SameFolders (disk.put names (.file content)) := by
  refine ⟨keepsFolders_put h _, rfl, ?_⟩
  intro names' hfolder
  by_cases hsame : names' = names
  · rw [hsame, entry?_put_self (ne_nil_of_not_folder h)] at hfolder
    exact absurd hfolder (by simp)
  · rwa [entry?_put_of_ne hsame] at hfolder

theorem goOn_eq_ok_iff {names last : List String} {step : String} :
    disk.goOn names step = .ok last ↔ disk.entry? names = some .folder ∧
      step.utf8ByteSize ≤ Path.nameBytesLimit ∧ last = Path.after names step := by
  unfold goOn
  split
  next h => simp [h]
  next h => simp [h]
  next h =>
    split
    next hlong => simp [h, Nat.not_le.mpr hlong]
    next hshort => simp [h, Nat.not_lt.mp hshort, eq_comm]

theorem KeepsFolders.goOn (h : older.KeepsFolders newer) {names last : List String} {step : String}
    (hstep : older.goOn names step = .ok last) : newer.goOn names step = .ok last := by
  obtain ⟨hfolder, hshort, hlast⟩ := goOn_eq_ok_iff.mp hstep
  exact goOn_eq_ok_iff.mpr ⟨h.folder names hfolder, hshort, hlast⟩

theorem KeepsFolders.follow (h : older.KeepsFolders newer) {names steps last : List String}
    (hsteps : older.follow names steps = .ok last) : newer.follow names steps = .ok last := by
  induction steps generalizing names with
  | nil => exact hsteps
  | cons step steps ih =>
    obtain ⟨next, hstep, hrest⟩ := bind_eq_ok_iff.mp hsteps
    exact bind_eq_ok_iff.mpr ⟨next, h.goOn hstep, ih hrest⟩

theorem KeepsFolders.start (h : older.KeepsFolders newer) (isFromTop : Bool) :
    newer.start isFromTop = older.start isFromTop := by
  simp only [Disk.start, h.present]

theorem lead_eq_ok_iff {path : String} {steps last : List String} :
    disk.lead path steps = .ok last ↔
      IsUsable path ∧ disk.follow (disk.start (Path.isFromTop path)) steps = .ok last := by
  unfold lead IsUsable
  split_ifs with hnull hempty hlong
  · simp [hnull]
  · simp [hempty]
  · simp [Nat.not_lt.mpr hlong]
  · simp [hnull, hempty, Nat.not_le.mp hlong]

theorem KeepsFolders.lead (h : older.KeepsFolders newer) {path : String} {steps last : List String}
    (hlead : older.lead path steps = .ok last) : newer.lead path steps = .ok last := by
  rw [lead_eq_ok_iff] at *
  rw [h.start]
  exact ⟨hlead.1, h.follow hlead.2⟩

def HasFolder (disk : Disk) (path : String) : Prop :=
  ∃ names, disk.lead path (Path.namedSteps path) = .ok names ∧ disk.entry? names = some .folder

theorem KeepsFolders.hasFolder (h : older.KeepsFolders newer) {path : String}
    (hfolder : older.HasFolder path) : newer.HasFolder path := by
  obtain ⟨names, hlead, hnames⟩ := hfolder
  exact ⟨names, h.lead hlead, h.folder names hnames⟩

theorem HasFolder.makeFolder {path : String} (h : disk.HasFolder path) :
    disk.makeFolder path = (.ok (), disk) := by
  obtain ⟨names, hlead, hnames⟩ := h
  simp only [Disk.makeFolder, hlead, hnames]

theorem hasFolder_of_makeFolder {path : String} (h : disk.makeFolder path = (.ok (), newer)) :
    newer.HasFolder path := by
  unfold makeFolder at h
  split at h
  next => exact absurd h (by simp)
  next names hlead =>
    split at h
    next hfolder =>
      obtain ⟨_, rfl⟩ := Prod.mk.inj h
      exact ⟨names, hlead, hfolder⟩
    next => exact absurd h (by simp)
    next hnone =>
      obtain ⟨_, rfl⟩ := Prod.mk.inj h
      have hfree : disk.entry? names ≠ some .folder := by simp [hnone]
      exact ⟨names, (keepsFolders_put hfree _).lead hlead, entry?_put_self (ne_nil_of_not_folder hfree) _⟩

/-- The fresh name is longer than the names of all entries, so that no entry has it. -/
theorem entry?_freshName (disk : Disk) (names : List String) :
    disk.entry? (names ++ [disk.freshName]) = none := by
  rw [entry?_eq_getElem? (by simp), Std.ExtTreeMap.getElem?_eq_none]
  intro hentry
  have hname : disk.freshName ∈ disk.entries.keys.flatten :=
    List.mem_flatten_of_mem (Std.ExtTreeMap.mem_keys.mpr hentry) (List.mem_append_right _ (by simp))
  have hlength := List.le_sum_of_mem (List.mem_map_of_mem (f := String.length) hname)
  rw [← String.length_join, freshName, String.length_ofList, List.length_replicate] at hlength
  exact absurd hlength (Nat.not_succ_le_self _)

theorem placeIn_eq_ok_iff {folder target : List String} {name : String} {asksForFolder : Bool} :
    disk.placeIn folder name asksForFolder = .ok target ↔
      (name ≠ "." ∧ name ≠ "..") ∧ name.utf8ByteSize ≤ Path.nameBytesLimit ∧ asksForFolder = false ∧
        disk.entry? target ≠ some .folder ∧ target = folder ++ [name] := by
  unfold placeIn
  split_ifs with hdots hlong hasks hfolder
  · refine iff_of_false (by simp) ?_
    rintro ⟨⟨hdot, htwo⟩, -⟩
    simp [hdot, htwo] at hdots
  · simp [Nat.not_le.mpr hlong]
  · simp [hasks]
  · refine iff_of_false (by simp) ?_
    rintro ⟨-, -, -, hfree, rfl⟩
    exact hfree hfolder
  · simp only [Bool.or_eq_true, beq_iff_eq, not_or] at hdots
    simp only [Except.ok.injEq]
    constructor
    · rintro rfl
      exact ⟨hdots, Nat.not_lt.mp hlong, Bool.eq_false_iff.mpr hasks, hfolder, rfl⟩
    · rintro ⟨-, -, -, -, htarget⟩
      exact htarget.symm

theorem place_eq_ok_iff {path : String} {target : List String} :
    disk.place path = .ok target ↔ IsUsable path ∧ ∃ outer name folder,
      Path.namedSteps path = outer ++ [name] ∧
        disk.followInto (disk.start (Path.isFromTop path)) outer = .ok folder ∧
        disk.placeIn folder name (Path.asksForFolder path) = .ok target := by
  unfold place IsUsable
  split_ifs with hnull hempty hlong
  · simp [hnull]
  · simp [hempty]
  · simp [Nat.not_lt.mpr hlong]
  · simp only [hnull, hempty, Nat.not_le.mp hlong, true_and]
    cases hsteps : (Path.namedSteps path).reverse with
    | nil =>
      rw [List.reverse_eq_nil_iff.mp hsteps]
      simp
    | cons name outer =>
      have hnames : Path.namedSteps path = outer.reverse ++ [name] := by
        rw [← List.reverse_cons, ← hsteps, List.reverse_reverse]
      rw [hnames, bind_eq_ok_iff]
      constructor
      · rintro ⟨folder, hfolder, hname⟩
        exact ⟨outer.reverse, name, folder, rfl, hfolder, hname⟩
      · rintro ⟨outer', name', folder, hsame, hfolder, hname⟩
        obtain ⟨rfl, hlast⟩ := List.append_inj' hsame rfl
        obtain rfl := List.head_eq_of_cons_eq hlast
        exact ⟨folder, hfolder, hname⟩

theorem not_folder_of_place (h : disk.place path = .ok target) : disk.entry? target ≠ some .folder := by
  obtain ⟨_, _, _, _, _, _, hname⟩ := place_eq_ok_iff.mp h
  exact (placeIn_eq_ok_iff.mp hname).2.2.2.1

/-- Where a file is put depends on the folders alone. -/
theorem SameFolders.place (h : disk.SameFolders other) {path : String} {target : List String}
    (hplace : disk.place path = .ok target) : other.place path = .ok target := by
  obtain ⟨husable, outer, name, folder, hsteps, hfolder, hname⟩ := place_eq_ok_iff.mp hplace
  obtain ⟨hdots, hshort, hasks, hfree, htarget⟩ := placeIn_eq_ok_iff.mp hname
  have hname' : other.placeIn folder name (Path.asksForFolder path) = .ok target :=
    placeIn_eq_ok_iff.mpr ⟨hdots, hshort, hasks, fun hfolder => hfree (h.2.folder target hfolder), htarget⟩
  rw [← h.1.start] at hfolder
  exact place_eq_ok_iff.mpr ⟨husable, outer, name, folder, hsteps, h.1.follow hfolder, hname'⟩

private theorem exists_last_cut (cs : List Char) {c : Char} (hc : c ≠ '/') : ∃ outer last, last ≠ [] ∧
    (Path.cut (cs ++ [c])).1 :: (Path.cut (cs ++ [c])).2 = outer ++ [last] := by
  induction cs with
  | nil => exact ⟨[], [c], by simp, by simp [Path.cut, hc]⟩
  | cons d cs ih =>
    obtain ⟨outer, last, hlast, hcut⟩ := ih
    rw [List.cons_append, Path.cut_cons]
    split
    next =>
      rw [hcut]
      exact ⟨[] :: outer, last, hlast, rfl⟩
    next =>
      cases outer with
      | nil =>
        obtain ⟨hfirst, hrest⟩ := List.cons.inj hcut
        rw [hrest]
        exact ⟨[], _, List.cons_ne_nil _ _, rfl⟩
      | cons first outer =>
        obtain ⟨_, hrest⟩ := List.cons.inj hcut
        rw [hrest]
        exact ⟨_ :: outer, last, hlast, rfl⟩

private theorem exists_last_step {path : String} (hsome : path.isEmpty = false)
    (hend : Path.asksForFolder path = false) :
    ∃ inner name, name ≠ "" ∧ Path.steps path = inner ++ [name] := by
  have hcs : path.toList ≠ [] := by simpa using hsome
  have hlast : path.toList.getLast hcs ≠ '/' := by
    simpa [Path.asksForFolder, List.getLast?_eq_some_getLast hcs] using hend
  obtain ⟨outer, last, hname, hcut⟩ := exists_last_cut path.toList.dropLast hlast
  rw [List.dropLast_append_getLast] at hcut
  refine ⟨outer.map String.ofList, String.ofList last, by simpa using hname, ?_⟩
  have hsteps := congrArg (List.map String.ofList) hcut
  simpa [Path.steps, Path.firstStep, Path.furtherSteps] using hsteps

private theorem folder_of_followInto {names steps last : List String}
    (h : disk.followInto names steps = .ok last) : disk.entry? names = some .folder := by
  cases steps with
  | nil =>
    obtain ⟨_, hstep, _⟩ := bind_eq_ok_iff.mp h
    exact (goOn_eq_ok_iff.mp hstep).1
  | cons step steps =>
    obtain ⟨_, hstep, _⟩ := bind_eq_ok_iff.mp h
    exact (goOn_eq_ok_iff.mp hstep).1

theorem follow_of_followInto_named {names steps last : List String}
    (h : disk.followInto names (steps.filter (· != "")) = .ok last) :
    disk.follow names steps = .ok last ∧ disk.entry? last = some .folder := by
  induction steps generalizing names with
  | nil =>
    obtain ⟨next, hstep, hrest⟩ := bind_eq_ok_iff.mp h
    obtain ⟨hfolder, _, rfl⟩ := goOn_eq_ok_iff.mp hstep
    obtain rfl := Except.ok.inj hrest
    exact ⟨rfl, hfolder⟩
  | cons step steps ih =>
    by_cases hempty : step = ""
    · rw [hempty] at h ⊢
      obtain ⟨hrest, hfolder⟩ := ih h
      have hstay : disk.goOn names "" = .ok names :=
        goOn_eq_ok_iff.mpr ⟨folder_of_followInto h, by decide, rfl⟩
      exact ⟨bind_eq_ok_iff.mpr ⟨names, hstay, hrest⟩, hfolder⟩
    · rw [List.filter_cons_of_pos (by simpa using hempty)] at h
      obtain ⟨next, hstep, hnext⟩ := bind_eq_ok_iff.mp h
      obtain ⟨hrest, hfolder⟩ := ih hnext
      exact ⟨bind_eq_ok_iff.mpr ⟨next, hstep, hrest⟩, hfolder⟩

theorem follow_append {names middle front back last : List String}
    (hfront : disk.follow names front = .ok middle) (hback : disk.follow middle back = .ok last) :
    disk.follow names (front ++ back) = .ok last := by
  induction front generalizing names with
  | nil =>
    obtain rfl := Except.ok.inj hfront
    exact hback
  | cons step front ih =>
    obtain ⟨next, hstep, hrest⟩ := bind_eq_ok_iff.mp hfront
    exact bind_eq_ok_iff.mpr ⟨next, hstep, ih hrest⟩

/-- A path leads to where a file is put by it. -/
theorem resolve_of_place {path : String} {target : List String} (h : disk.place path = .ok target) :
    disk.resolve path = .ok target := by
  obtain ⟨husable, outer, name, folder, hnamed, hfolder, hname⟩ := place_eq_ok_iff.mp h
  obtain ⟨⟨hdot, htwo⟩, hshort, hasks, -, rfl⟩ := placeIn_eq_ok_iff.mp hname
  obtain ⟨inner, last, hlast, hsteps⟩ := exists_last_step husable.2.1 hasks
  have hfilter : inner.filter (· != "") ++ [last] = outer ++ [name] := by
    rw [← hnamed, Path.namedSteps, hsteps, List.filter_append]
    simp [hlast]
  obtain ⟨rfl, hsame⟩ := List.append_inj' hfilter rfl
  obtain rfl := List.head_eq_of_cons_eq hsame
  obtain ⟨hinner, hthere⟩ := follow_of_followInto_named hfolder
  have hafter : Path.after folder last = folder ++ [last] := by
    simp [Path.after, Path.staysPut, hlast, hdot, htwo]
  have hstep : disk.goOn folder last = .ok (folder ++ [last]) :=
    goOn_eq_ok_iff.mpr ⟨hthere, hshort, hafter.symm⟩
  refine lead_eq_ok_iff.mpr ⟨husable, ?_⟩
  rw [hsteps]
  exact follow_append hinner (bind_eq_ok_iff.mpr ⟨_, hstep, rfl⟩)

end Banter.Disk
