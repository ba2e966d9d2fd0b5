import Mathlib.Algebra.BigOperators.Group.Finset.Basic
import Mathlib.Algebra.BigOperators.Ring.List
import Mathlib.Algebra.Ring.Nat
import Mathlib.Data.Finset.Card
import Banter.Proofs.Trie.Canonical

namespace Banter.Trie

/-- The paths that lead to the nodes a given depth below the top. -/
def pathsAt : Trie → Nat → List (List SymbolId)
  | _, 0 => [[]]
  | node _ nodes, depth + 1 =>
    nodes.toList.flatMap fun child => (child.pathsAt depth).map (child.id :: ·)

theorem total_eq_sum (counts : Array Nat) : total counts = counts.toList.sum := by
  rw [total, ← Array.foldl_toList, ← List.sum_eq_foldl]

theorem sizeAt_succ (trie : Trie) (depth : Nat) :
    trie.sizeAt (depth + 1) = (trie.children.toList.map (·.sizeAt depth)).sum := by
  cases trie
  rw [sizeAt, total_eq_sum, Array.toList_map]
  rfl

theorem pathsAt_zero (trie : Trie) : trie.pathsAt 0 = [[]] := by
  cases trie
  rfl

theorem pathsAt_succ (trie : Trie) (depth : Nat) :
    trie.pathsAt (depth + 1) =
      trie.children.toList.flatMap fun child => (child.pathsAt depth).map (child.id :: ·) := by
  cases trie
  rfl

theorem length_pathsAt (trie : Trie) (depth : Nat) : (trie.pathsAt depth).length = trie.sizeAt depth := by
  induction depth generalizing trie with
  | zero => cases trie; rfl
  | succ depth ih => simp [pathsAt_succ, sizeAt_succ, List.length_flatMap, ih]

theorem mem_pathsAt {trie : Trie} (h : trie.isSorted = true) {depth : Nat} {path : List SymbolId} :
    path ∈ trie.pathsAt depth ↔ path.length = depth ∧ trie.HasPath path := by
  induction depth generalizing trie path with
  | zero =>
    rw [pathsAt_zero, List.mem_singleton, List.length_eq_zero_iff]
    constructor
    · intro hpath
      exact ⟨hpath, hpath ▸ hasPath_nil trie⟩
    · intro hboth
      exact hboth.1
  | succ depth ih =>
    rw [pathsAt_succ, List.mem_flatMap]
    cases path with
    | nil => simp
    | cons id path =>
      rw [List.length_cons, Nat.succ_inj, hasPath_cons_iff_mem h]
      constructor
      · intro hexists
        obtain ⟨child, hchild, hmem⟩ := hexists
        obtain ⟨rest, hrest, hpath⟩ := List.mem_map.mp hmem
        obtain ⟨hid, rfl⟩ := List.cons.inj hpath
        have hchild := Array.mem_toList_iff.mp hchild
        obtain ⟨hlength, hfound⟩ := (ih (isSorted_of_mem h hchild)).mp hrest
        exact ⟨hlength, child, hchild, hid, hfound⟩
      · intro hboth
        obtain ⟨hlength, child, hchild, rfl, hfound⟩ := hboth
        refine ⟨child, Array.mem_toList_iff.mpr hchild, List.mem_map_of_mem ?_⟩
        exact (ih (isSorted_of_mem h hchild)).mpr ⟨hlength, hfound⟩

theorem nodup_pathsAt {trie : Trie} (h : trie.isSorted = true) (depth : Nat) :
    (trie.pathsAt depth).Nodup := by
  induction depth generalizing trie with
  | zero => cases trie; exact List.nodup_singleton []
  | succ depth ih =>
    rw [pathsAt_succ, List.nodup_flatMap]
    constructor
    · intro child hchild
      have hnodup := ih (isSorted_of_mem h (Array.mem_toList_iff.mp hchild))
      exact hnodup.map (List.cons_injective (a := child.id))
    · -- Paths through different children begin with different numbers.
      apply (inOrder_iff.mp (inOrder_children h)).imp
      intro a b hlt path ha hb
      obtain ⟨_, _, rfl⟩ := List.mem_map.mp ha
      obtain ⟨_, _, hpath⟩ := List.mem_map.mp hb
      exact UInt16.ne_of_lt hlt (List.cons.inj hpath).1.symm

/-- The nodes at a depth are as many as the paths that lead to them. -/
theorem sizeAt_eq_card {trie : Trie} (h : trie.isSorted = true) (depth : Nat) :
    trie.sizeAt depth = (trie.pathsAt depth).toFinset.card := by
  rw [List.toFinset_card_of_nodup (nodup_pathsAt h depth), length_pathsAt]

theorem sizeAt_zero (trie : Trie) : trie.sizeAt 0 = 1 := by
  cases trie
  rfl

theorem size_eq (trie : Trie) : trie.size = 1 + (trie.children.toList.map size).sum := by
  cases trie
  rw [size, total_eq_sum, Array.toList_map]
  rfl

private theorem sum_sizes (nodes : List Trie) (bound : Nat) :
    (nodes.map fun child => ∑ depth ∈ Finset.range bound, child.sizeAt depth).sum =
      ∑ depth ∈ Finset.range bound, (nodes.map (·.sizeAt depth)).sum := by
  induction nodes with
  | nil => simp
  | cons child nodes ih => simp only [List.map_cons, List.sum_cons, ih, Finset.sum_add_distrib]

/-- The nodes are those at each depth up to that of the longest path. -/
theorem size_eq_sum {trie : Trie} (h : trie.isSorted = true) {bound : Nat}
    (hbound : ∀ path, trie.HasPath path → path.length ≤ bound) :
    trie.size = ∑ depth ∈ Finset.range (bound + 1), trie.sizeAt depth := by
  induction bound generalizing trie with
  | zero =>
    have hnone : trie.children = #[] := by
      by_contra hsome
      obtain ⟨id, hid⟩ := exists_hasPath h hsome
      exact absurd (hbound [id] hid) (by simp)
    rw [size_eq, hnone]
    simp [sizeAt_zero]
  | succ bound ih =>
    have hchildren : trie.children.toList.map size =
        trie.children.toList.map fun child => ∑ depth ∈ Finset.range (bound + 1), child.sizeAt depth := by
      apply List.map_congr_left
      intro child hchild
      have hmem := Array.mem_toList_iff.mp hchild
      apply ih (isSorted_of_mem h hmem)
      intro path hpath
      exact Nat.le_of_succ_le_succ (hbound (child.id :: path) ((hasPath_of_mem h hmem).mpr hpath))
    rw [size_eq, hchildren, sum_sizes, Finset.sum_range_succ' _ (bound + 1), sizeAt_zero, Nat.add_comm]
    simp only [sizeAt_succ]

theorem bytes_eq (trie : Trie) : trie.bytes = 32 * trie.size := by
  induction trie using byChildren with
  | step top nodes ih =>
    have hchildren : nodes.toList.map bytes = nodes.toList.map fun child => 32 * child.size := by
      apply List.map_congr_left
      intro child hchild
      exact ih child (Array.mem_toList_iff.mp hchild)
    rw [bytes, size, total_eq_sum, total_eq_sum, Array.toList_map, Array.toList_map, hchildren,
      List.sum_map_mul_left, nodeBytes, Nat.mul_add]

end Banter.Trie
