import Mathlib.Data.List.Infix
import Mathlib.Data.List.MinMax
import Banter.Proofs.Trie.Counting

/-!
# Measures and paths

What is measured on a trie in order can be told from its paths alone: the depth is the length of a longest
path, the nodes at a depth are the paths of that length, and the children of the nodes at a depth are the nodes
one deeper. For paths that were added to a trie without any, these are the beginnings of the paths.
-/

namespace Banter.Trie

theorem depth_eq (trie : Trie) : trie.depth = (trie.children.toList.map (·.depth + 1)).max?.getD 0 := by
  cases trie with
  | node top nodes =>
    have hfold : (node top nodes).depth = nodes.foldl (fun longest child => max longest (child.depth + 1)) 0 := by
      simp [depth]
    rw [hfold, children_node, ← Array.foldl_toList, ← Nat.zero_max (Option.getD _ 0), ← List.foldl_max,
      List.foldl_map]

theorem depth_lt_of_mem {trie child : Trie} (hchild : child ∈ trie.children) : child.depth < trie.depth := by
  rw [depth_eq trie]
  apply List.le_max?_getD_of_mem
  exact List.mem_map_of_mem (f := (·.depth + 1)) (Array.mem_toList_iff.mpr hchild)

/-- No path is longer than the depth. -/
theorem HasPath.length_le_depth {trie : Trie} {path : List SymbolId} (hpath : trie.HasPath path)
    (h : trie.isSorted = true) : path.length ≤ trie.depth := by
  induction path generalizing trie with
  | nil => exact Nat.zero_le _
  | cons id path ih =>
    obtain ⟨child, hchild, _, hrest⟩ := (hasPath_cons_iff_mem h).mp hpath
    exact Nat.succ_le_of_lt (Nat.lt_of_le_of_lt (ih hrest (isSorted_of_mem h hchild)) (depth_lt_of_mem hchild))

/-- A path goes through a deepest child at each node. -/
theorem exists_hasPath_depth {trie : Trie} (h : trie.isSorted = true) :
    ∃ path, trie.HasPath path ∧ path.length = trie.depth := by
  induction trie using byChildren with
  | step top nodes ih =>
    rw [depth_eq, children_node]
    cases hlongest : (nodes.toList.map (·.depth + 1)).max? with
    | none => exact ⟨[], hasPath_nil _, rfl⟩
    | some longest =>
      obtain ⟨child, hchild, rfl⟩ := List.mem_map.mp (List.max?_mem hlongest)
      have hmem : child ∈ (node top nodes).children := Array.mem_toList_iff.mp hchild
      obtain ⟨path, hpath, hlength⟩ := ih child hmem (isSorted_of_mem h hmem)
      exact ⟨child.id :: path, (hasPath_of_mem h hmem).mpr hpath, congrArg (· + 1) hlength⟩

/-- There are nodes just down to the depth of the trie. -/
theorem sizeAt_pos_iff {trie : Trie} (h : trie.isSorted = true) {length : Nat} :
    0 < trie.sizeAt length ↔ length ≤ trie.depth := by
  rw [← length_pathsAt, List.length_pos_iff_exists_mem]
  constructor
  · intro hexists
    obtain ⟨path, hpath⟩ := hexists
    obtain ⟨rfl, hfound⟩ := (mem_pathsAt h).mp hpath
    exact hfound.length_le_depth h
  · intro hle
    obtain ⟨path, hpath, hlength⟩ := exists_hasPath_depth h
    have hfront : (path.take length).length = length := List.length_take_of_le (hlength ▸ hle)
    exact ⟨path.take length, (mem_pathsAt h).mpr ⟨hfront, hpath.of_prefix (List.take_prefix length path)⟩⟩

theorem size_eq_sum_depth {trie : Trie} (h : trie.isSorted = true) :
    trie.size = ∑ length ∈ Finset.range (trie.depth + 1), trie.sizeAt length :=
  size_eq_sum h fun _ hpath => hpath.length_le_depth h

def fanout (trie : Trie) (path : List SymbolId) : Nat :=
  (trie.find? path).elim 0 (·.children.size)

theorem fanout_nil (trie : Trie) : trie.fanout [] = trie.children.size := by
  cases trie
  rfl

theorem fanout_of_mem {trie child : Trie} (h : trie.isSorted = true) (hchild : child ∈ trie.children)
    (path : List SymbolId) : trie.fanout (child.id :: path) = child.fanout path := by
  have hfound := (child?_eq_some_iff (inOrder_children h)).mpr ⟨hchild, rfl⟩
  rw [fanout, find?_cons, hfound]
  rfl

private theorem sizeAt_succ_eq_sum_pathsAt {trie : Trie} (h : trie.isSorted = true) (length : Nat) :
    trie.sizeAt (length + 1) = ((trie.pathsAt length).map trie.fanout).sum := by
  induction length generalizing trie with
  | zero =>
    simp only [pathsAt_zero, sizeAt_succ, sizeAt_zero, List.map_const', List.sum_replicate_nat, Nat.mul_one,
      Array.length_toList, List.map_singleton, List.sum_singleton, fanout_nil]
  | succ length ih =>
    -- The paths through a child lead from the top to where their rests lead from the child.
    have hchildren : trie.children.toList.map (·.sizeAt (length + 1)) =
        trie.children.toList.map fun child =>
          (((child.pathsAt length).map (child.id :: ·)).map trie.fanout).sum := by
      apply List.map_congr_left
      intro child hchild
      have hmem := Array.mem_toList_iff.mp hchild
      have hfanout : trie.fanout ∘ (child.id :: ·) = child.fanout := funext (fanout_of_mem h hmem)
      rw [List.map_map, hfanout, ih (isSorted_of_mem h hmem)]
    rw [sizeAt_succ, hchildren, pathsAt_succ, List.map_flatMap, List.flatMap_def, List.sum_flatten, List.map_map]
    rfl

/-- The nodes at a depth are the children of the nodes one above. -/
theorem sizeAt_succ_eq_sum_fanout {trie : Trie} (h : trie.isSorted = true) (length : Nat) :
    trie.sizeAt (length + 1) = ∑ path ∈ (trie.pathsAt length).toFinset, trie.fanout path := by
  rw [sizeAt_succ_eq_sum_pathsAt h, List.sum_toFinset _ (nodup_pathsAt h length)]

def beginnings (paths : List (List SymbolId)) (length : Nat) : Finset (List SymbolId) :=
  (paths.flatMap List.inits).toFinset.filter (·.length = length)

theorem mem_beginnings {paths : List (List SymbolId)} {length : Nat} {front : List SymbolId} :
    front ∈ beginnings paths length ↔ front.length = length ∧ ∃ path ∈ paths, front <+: path := by
  rw [beginnings, Finset.mem_filter, List.mem_toFinset, List.mem_flatMap, and_comm]
  simp only [List.mem_inits]

section Added

variable (top : SymbolId) (paths : List (List SymbolId))

theorem isSorted_insertAll_leaf : ((leaf top).insertAll paths).isSorted = true :=
  isSorted_insertAll (isSorted_leaf top) paths

theorem hasPath_insertAll_leaf {path : List SymbolId} :
    ((leaf top).insertAll paths).HasPath path ↔ path = [] ∨ ∃ whole ∈ paths, path <+: whole := by
  rw [hasPath_insertAll (isSorted_leaf top), hasPath_leaf]

theorem toFinset_pathsAt_insertAll_leaf {length : Nat} (hbelow : length ≠ 0 ∨ paths ≠ []) :
    (((leaf top).insertAll paths).pathsAt length).toFinset = beginnings paths length := by
  ext path
  rw [List.mem_toFinset, mem_pathsAt (isSorted_insertAll_leaf top paths), mem_beginnings, hasPath_insertAll_leaf]
  apply and_congr_right
  intro hlength
  constructor
  · intro hcases
    rcases hcases with rfl | hexists
    · -- The empty path begins any path, if there is one.
      obtain ⟨path, hpath⟩ := List.exists_mem_of_ne_nil paths (hbelow.resolve_left (· hlength.symm))
      exact ⟨path, hpath, List.nil_prefix⟩
    · exact hexists
  · exact Or.inr

theorem depth_insertAll_leaf : ((leaf top).insertAll paths).depth = (paths.map List.length).max?.getD 0 := by
  apply Nat.le_antisymm
  · obtain ⟨path, hpath, hlength⟩ := exists_hasPath_depth (isSorted_insertAll_leaf top paths)
    rw [← hlength]
    rcases (hasPath_insertAll_leaf top paths).mp hpath with rfl | ⟨whole, hwhole, hfront⟩
    · exact Nat.zero_le _
    · exact Nat.le_trans hfront.length_le (List.le_max?_getD_of_mem (List.mem_map_of_mem hwhole))
  · cases hlongest : (paths.map List.length).max? with
    | none => exact Nat.zero_le _
    | some longest =>
      obtain ⟨path, hpath, rfl⟩ := List.mem_map.mp (List.max?_mem hlongest)
      have hfound := (hasPath_insertAll_leaf top paths).mpr (Or.inr ⟨path, hpath, List.prefix_rfl⟩)
      exact hfound.length_le_depth (isSorted_insertAll_leaf top paths)

theorem sizeAt_insertAll_leaf (length : Nat) :
    ((leaf top).insertAll paths).sizeAt length = if length = 0 then 1 else (beginnings paths length).card := by
  by_cases hzero : length = 0
  · rw [if_pos hzero, hzero, sizeAt_zero]
  · rw [if_neg hzero, sizeAt_eq_card (isSorted_insertAll_leaf top paths),
      toFinset_pathsAt_insertAll_leaf top paths (Or.inl hzero)]

theorem sizeAt_succ_insertAll_leaf (length : Nat) :
    ((leaf top).insertAll paths).sizeAt (length + 1) =
      ∑ path ∈ beginnings paths length, ((leaf top).insertAll paths).fanout path := by
  by_cases hbelow : length ≠ 0 ∨ paths ≠ []
  · rw [sizeAt_succ_eq_sum_fanout (isSorted_insertAll_leaf top paths),
      toFinset_pathsAt_insertAll_leaf top paths hbelow]
  · rw [not_or, not_not, not_not] at hbelow
    obtain ⟨rfl, rfl⟩ := hbelow
    rw [sizeAt_succ]
    rfl

/-- Where paths are added to a trie without any, the nodes at a depth are counted by the beginnings of that
length, each of them once. There are nodes down to the length of the longest path. All nodes together are those at
these depths, and the nodes below the top are the children of those that the beginnings lead to. -/
theorem insertAll_measures :
    let trie := (leaf top).insertAll paths
    (∀ length, trie.sizeAt length = if length = 0 then 1 else (beginnings paths length).card) ∧
    (∀ length, 0 < trie.sizeAt length ↔ length ≤ trie.depth) ∧
    trie.depth = (paths.map List.length).max?.getD 0 ∧
    trie.size = ∑ length ∈ Finset.range (trie.depth + 1), trie.sizeAt length ∧
    ∀ length, (∀ path ∈ beginnings paths length, (trie.find? path).isSome = true) ∧
      trie.sizeAt (length + 1) = ∑ path ∈ beginnings paths length, trie.fanout path := by
  intro trie
  have hsorted := isSorted_insertAll_leaf top paths
  refine ⟨sizeAt_insertAll_leaf top paths, fun _ => sizeAt_pos_iff hsorted, depth_insertAll_leaf top paths,
    size_eq_sum_depth hsorted, fun length => ⟨?_, sizeAt_succ_insertAll_leaf top paths length⟩⟩
  intro path hpath
  exact (hasPath_insertAll_leaf top paths).mpr (Or.inr (mem_beginnings.mp hpath).2)

end Added

theorem insertAll_measures_shared :
    let paths := [[1, 2, 3], [1, 2, 4], [1, 2], [2, 2, 4], [1, 2, 3]]
    let trie := (leaf 0).insertAll paths
    [1, 2] ∈ beginnings paths 2 ∧ (trie.find? [1, 2]).isSome = true ∧ trie.depth = 3 ∧ trie.sizeAt 2 = 2 ∧
      trie.sizeAt 3 = 3 ∧ trie.sizeAt 4 = 0 ∧ trie.size = 8 := by
  intro paths trie
  have hmem : [1, 2] ∈ beginnings paths 2 := by decide
  obtain ⟨hsizeAt, hpos, hdepth, hsize, hchildren⟩ := insertAll_measures 0 paths
  have hdeep : trie.depth = 3 := hdepth
  have hzero : ¬0 < trie.sizeAt 4 := fun h => absurd ((hpos 4).mp h) (by rw [hdeep]; decide)
  refine ⟨hmem, (hchildren 2).1 [1, 2] hmem, hdeep, ?_, ?_, Nat.eq_zero_of_not_pos hzero, ?_⟩
  · rw [hsizeAt 2]
    decide
  · rw [hsizeAt 3]
    decide
  · rw [hsize, hdepth]
    simp only [hsizeAt]
    decide

end Banter.Trie
