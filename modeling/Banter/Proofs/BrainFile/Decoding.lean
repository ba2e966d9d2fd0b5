import Mathlib.Data.List.Perm.Subperm
import Banter.Proofs.Brain.Soundness
import Banter.Proofs.BrainFile.RoundTrip

namespace Banter.BrainFile

private theorem forall_of_readOnto {α : Type} {item : Reader α} {good : α → Prop}
    (hitem : ∀ bytes value rest, item bytes = .ok (value, rest) → good value) {count : Nat}
    {done values : Array α} {bytes rest : List UInt8} (hdone : ∀ value ∈ done, good value)
    (h : readOnto item count done bytes = .ok (values, rest)) : ∀ value ∈ values, good value := by
  induction count generalizing done bytes with
  | zero =>
    obtain ⟨rfl, _⟩ := Prod.mk.inj (Except.ok.inj h)
    exact hdone
  | succ count ih =>
    rw [readOnto] at h
    split at h
    next value after hvalue =>
      have hgood := hitem bytes value after hvalue
      apply ih _ h
      intro other hother
      rcases Array.mem_push.mp hother with hother | rfl
      · exact hdone other hother
      · exact hgood
    next => exact absurd h (by simp)

/-- What each item that can be read has, all of many items have. -/
theorem forall_of_readMany {α : Type} {item : Reader α} {good : α → Prop}
    (hitem : ∀ bytes value rest, item bytes = .ok (value, rest) → good value) {count : Nat}
    {values : Array α} {bytes rest : List UInt8}
    (h : readMany item count bytes = .ok (values, rest)) : ∀ value ∈ values, good value :=
  forall_of_readOnto hitem (by simp) h

private theorem size_of_readOnto {α : Type} {item : Reader α} {count : Nat} {done values : Array α}
    {bytes rest : List UInt8} (h : readOnto item count done bytes = .ok (values, rest)) :
    values.size = done.size + count := by
  induction count generalizing done bytes with
  | zero =>
    obtain ⟨rfl, _⟩ := Prod.mk.inj (Except.ok.inj h)
    rfl
  | succ count ih =>
    rw [readOnto] at h
    split at h
    next =>
      rw [ih h, Array.size_push]
      omega
    next => exact absurd h (by simp)

theorem size_of_readMany {α : Type} {item : Reader α} {count : Nat} {values : Array α}
    {bytes rest : List UInt8} (h : readMany item count bytes = .ok (values, rest)) :
    values.size = count := by
  simpa using size_of_readOnto h

theorem isAllowed_of_readNode {isAllowed : SymbolId → Bool} {mayBranch : Bool} {bytes rest : List UInt8}
    {id : SymbolId} {count : UInt16}
    (h : readNode isAllowed mayBranch bytes = .ok ((id, count), rest)) : isAllowed id = true := by
  obtain ⟨⟨found, after⟩, _, h⟩ := bind_eq_ok_iff.mp h
  by_cases hallowed : isAllowed found = true
  · simp only [hallowed, Bool.not_true, Bool.false_eq_true, if_false] at h
    obtain ⟨⟨_, _⟩, _, h⟩ := bind_eq_ok_iff.mp h
    split at h
    next => exact absurd h (by simp [defect])
    next =>
      obtain ⟨hnode, _⟩ := Prod.mk.inj (Except.ok.inj h)
      rwa [← (Prod.mk.inj hnode).1]
  · simp [hallowed, defect] at h

theorem nodeOf_eq_ok_iff {id : SymbolId} {children : Array Trie} {trie : Trie} :
    nodeOf id children = .ok trie ↔ Trie.inOrder children = true ∧ trie = .node id children := by
  unfold nodeOf Trie.ofChildren?
  by_cases h : Trie.inOrder children = true
  · simp [h, eq_comm]
  · simp [h, defect]

/-- A trie that can be read stands in order, and its paths are short enough and listed. -/
theorem isSorted_of_readTrie {isListed isAllowed : SymbolId → Bool} {depth : Nat}
    {bytes rest : List UInt8} {trie : Trie}
    (h : readTrie isListed depth isAllowed bytes = .ok (trie, rest)) :
    isAllowed trie.id = true ∧ trie.isSorted = true ∧ IsReadable isListed depth trie := by
  induction depth generalizing isAllowed bytes rest trie with
  | zero =>
    rw [readTrie] at h
    obtain ⟨⟨⟨id, count⟩, after⟩, hnode, h⟩ := bind_eq_ok_iff.mp h
    obtain ⟨rfl, _⟩ := Prod.mk.inj (Except.ok.inj h)
    have hleaf := Trie.isSorted_leaf id
    exact ⟨isAllowed_of_readNode hnode, hleaf, (isReadable_zero_iff hleaf).mpr rfl⟩
  | succ depth ih =>
    rw [readTrie] at h
    obtain ⟨⟨⟨id, count⟩, after⟩, hnode, h⟩ := bind_eq_ok_iff.mp h
    obtain ⟨⟨children, last⟩, hmany, h⟩ := bind_eq_ok_iff.mp h
    obtain ⟨found, hfound, h⟩ := bind_eq_ok_iff.mp h
    obtain ⟨rfl, _⟩ := Prod.mk.inj (Except.ok.inj h)
    obtain ⟨horder, rfl⟩ := nodeOf_eq_ok_iff.mp hfound
    have hchildren := forall_of_readMany (fun _ _ _ hchild => ih hchild) hmany
    have hsorted : (Trie.node id children).isSorted = true := by
      rw [Trie.isSorted_node]
      exact ⟨horder, fun child hchild => (hchildren child hchild).2.1⟩
    refine ⟨isAllowed_of_readNode hnode, hsorted, (isReadable_succ_iff hsorted).mpr ?_⟩
    intro child hchild
    obtain ⟨hallowed, _, hreadable⟩ := hchildren child hchild
    exact ⟨hallowed, hreadable⟩

/-- Every brain that is read from a file is sound. -/
theorem isSound_of_decode {bytes : List UInt8} {brain : Brain} (h : decode bytes = .ok brain) :
    brain.IsSound := by
  obtain ⟨⟨lexicon, afterLexicon⟩, _, h⟩ := bind_eq_ok_iff.mp h
  obtain ⟨⟨onward, afterOnward⟩, honward, h⟩ := bind_eq_ok_iff.mp h
  obtain ⟨⟨backward, afterBackward⟩, hbackward, h⟩ := bind_eq_ok_iff.mp h
  dsimp only at h
  split at h
  next =>
    obtain rfl := Except.ok.inj h
    have htrie : ∀ direction, ((⟨onward, backward⟩ : Memory).trie direction).isSorted = true ∧
        IsReadable (·.toNat < lexicon.size) depthLimit ((⟨onward, backward⟩ : Memory).trie direction) :=
      Direction.forall_iff.mpr ⟨(isSorted_of_readTrie honward).2, (isSorted_of_readTrie hbackward).2⟩
    refine ⟨fun direction => (htrie direction).1, ?_, ?_⟩
    · intro direction path hpath
      exact ((htrie direction).2 path hpath).1
    · intro direction path hpath id hid
      exact of_decide_eq_true (((htrie direction).2 path hpath).2 id hid)
  next => exact absurd h (by simp [defect])

private theorem length_le_of_isAscending {ids : List SymbolId} (h : Trie.isAscending ids = true) {size : Nat}
    (hids : ∀ id ∈ ids, id.toNat < size) : ids.length ≤ size := by
  have hnodup : (ids.map UInt16.toNat).Nodup := by
    rw [List.Nodup, List.pairwise_map]
    exact (Trie.isAscending_iff.mp h).imp fun hlt => Nat.ne_of_lt (UInt16.lt_iff_toNat_lt.mp hlt)
  have hsubset : ids.map UInt16.toNat ⊆ List.range size := by
    intro n hn
    obtain ⟨id, hid, rfl⟩ := List.mem_map.mp hn
    exact List.mem_range.mpr (hids id hid)
  simpa using (List.subperm_of_subset hnodup hsubset).length_le

/-- The children of a node have numbers of their own, so that only the lexicon can be too large for a file. -/
theorem hasFile_iff_of_isSound {brain : Brain} (h : brain.IsSound) :
    hasFile brain = true ↔ brain.lexicon.size ≤ 65535 := by
  rw [hasFile_iff (h.sorted .onward) (h.sorted .backward)]
  constructor
  · exact fun hboth => hboth.1
  · intro hsize
    refine ⟨hsize, ?_⟩
    intro direction path node hnode
    have hsorted := Trie.isSorted_of_find? (h.sorted direction) hnode
    have hids : ∀ id ∈ node.children.toList.map Trie.id, id.toNat < brain.lexicon.size := by
      intro id hid
      obtain ⟨child, hchild, rfl⟩ := List.mem_map.mp hid
      have hpath : node.HasPath [child.id] := (Trie.hasPath_cons_iff_mem hsorted).mpr
        ⟨child, Array.mem_toList_iff.mp hchild, rfl, Trie.hasPath_nil child⟩
      have hlonger : (brain.memory.trie direction).HasPath (path ++ [child.id]) :=
        Trie.hasPath_append.mpr ⟨node, hnode, hpath⟩
      exact h.listed direction _ hlonger child.id (by simp)
    have hlength := length_le_of_isAscending (Trie.inOrder_children hsorted) hids
    rw [List.length_map, Array.length_toList] at hlength
    exact Nat.le_trans hlength hsize

end Banter.BrainFile
