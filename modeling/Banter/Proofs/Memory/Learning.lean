import Banter.Proofs.Memory.Spans
import Banter.Proofs.Trie.Paths

/-!
# What a memory learns

The positions of a sequence of numbers are learned one after another. Each of them adds its paths to the tries and
leaves everything else to the next, so that in the end the paths of all positions are added, in their order.
-/

namespace Banter.Memory

variable {order i : Nat} {ids : Array SymbolId} {stop : SymbolId} {direction : Direction} {path : List SymbolId}

theorem trie_insert (memory : Memory) (direction other : Direction) (path : List SymbolId) :
    (memory.insert direction path).trie other =
      if other = direction then (memory.trie other).insert path else memory.trie other := by
  cases direction <;> cases other <;> rfl

namespace Learner

variable (learner : Learner) (run : Array SymbolId) (id : SymbolId)

@[simp] theorem memory_insertOnward :
    (learner.insertOnward run).memory = learner.memory.insert .onward run.toList := rfl

@[simp] theorem memory_insertBackward :
    learner.insertBackward.memory = learner.memory.insert .backward learner.path.toList := rfl

@[simp] theorem memory_putReversed : (learner.putReversed run).memory = learner.memory := rfl

@[simp] theorem path_putReversed : (learner.putReversed run).path.toList = run.toList.reverse := by
  simp [putReversed]

@[simp] theorem memory_put : (learner.put id).memory = learner.memory := rfl

@[simp] theorem path_put : (learner.put id).path.toList = learner.path.toList ++ [id] := Array.toList_push

end Learner

/-- The paths that one position adds in a direction. -/
def pathsFrom (order : Nat) (ids : Array SymbolId) (stop : SymbolId) (direction : Direction) (i : Nat) :
    List (List SymbolId) :=
  match direction with
  | .onward => if i + order < ids.size then [span ids i (i + order)] else []
  | .backward =>
    (if i + 1 = order then [(ids.toList.take order).reverse ++ [stop]] else []) ++
      if order ≤ i ∧ ids[i]? ≠ some stop then [(span ids (i - order) i).reverse] else []

/-- The paths that a sequence of numbers adds in a direction. -/
def newPaths (order : Nat) (ids : Array SymbolId) (stop : SymbolId) (direction : Direction) :
    List (List SymbolId) :=
  if ids.size < order + 1 then [] else (List.range ids.size).flatMap (pathsFrom order ids stop direction)

/-- Whatever path was put together before, a position adds its own paths and no others. -/
theorem trie_learnAt (learner : Learner) :
    (learnAt order ids stop learner i).memory.trie direction =
      (learner.memory.trie direction).insertAll (pathsFrom order ids stop direction i) := by
  have hopening : (ids.extract 0 order).toList = ids.toList.take order := by
    rw [Array.toList_extract, List.extract_eq_take_drop, List.drop_zero, Nat.sub_zero]
  unfold learnAt
  cases direction with
  | onward =>
    rw [pathsFrom]
    split_ifs <;> simp [-Array.toList_extract, trie_insert, Trie.insertAll, toList_extract_eq_span]
  | backward =>
    rw [pathsFrom]
    split_ifs <;> simp [-Array.toList_extract, trie_insert, Trie.insertAll, toList_extract_eq_span, hopening]

theorem trie_foldl_learnAt (positions : List Nat) (learner : Learner) :
    (positions.foldl (learnAt order ids stop) learner).memory.trie direction =
      (learner.memory.trie direction).insertAll (positions.flatMap (pathsFrom order ids stop direction)) := by
  induction positions generalizing learner with
  | nil => rfl
  | cons i positions ih =>
    rw [List.foldl_cons, ih, trie_learnAt, List.flatMap_cons, Trie.insertAll, Trie.insertAll, Trie.insertAll,
      List.foldl_append]

theorem trie_learn (order : Nat) (ids : Array SymbolId) (stop : SymbolId) (memory : Memory)
    (direction : Direction) :
    (memory.learn order ids stop).trie direction =
      (memory.trie direction).insertAll (newPaths order ids stop direction) := by
  rw [learn, newPaths]
  split_ifs
  · rfl
  · exact trie_foldl_learnAt _ _

/-- A sequence with fewer numbers than a path has adds no paths. -/
theorem newPaths_of_size_le (h : ids.size ≤ order) (stop : SymbolId) (direction : Direction) :
    newPaths order ids stop direction = [] :=
  if_pos (Nat.lt_succ_of_le h)

theorem size_of_mem_newPaths (h : path ∈ newPaths order ids stop direction) : order < ids.size := by
  by_cases hsize : order < ids.size
  · exact hsize
  · rw [newPaths_of_size_le (Nat.not_lt.mp hsize)] at h
    exact absurd h List.not_mem_nil

theorem mem_newPaths :
    path ∈ newPaths order ids stop direction ↔
      order < ids.size ∧ ∃ i < ids.size, path ∈ pathsFrom order ids stop direction i := by
  rw [newPaths]
  split_ifs with hshort
  · simp only [List.not_mem_nil, false_iff]
    omega
  · simp only [List.mem_flatMap, List.mem_range]
    exact (and_iff_right (Nat.not_lt.mp hshort)).symm

theorem mem_newPaths_onward_iff_span :
    path ∈ newPaths order ids stop .onward ↔ ∃ i, i + order < ids.size ∧ path = span ids i (i + order) := by
  rw [mem_newPaths]
  constructor
  · intro hboth
    obtain ⟨_, i, _, hpath⟩ := hboth
    rw [pathsFrom] at hpath
    split_ifs at hpath with hi
    · exact ⟨i, hi, List.mem_singleton.mp hpath⟩
    · exact absurd hpath List.not_mem_nil
  · intro hexists
    obtain ⟨i, hi, rfl⟩ := hexists
    refine ⟨by omega, i, by omega, ?_⟩
    rw [pathsFrom, if_pos hi]
    exact List.mem_singleton.mpr rfl

/-- The backward paths by the position that each of them starts from, besides the opening. -/
theorem mem_newPaths_backward_iff_span :
    path ∈ newPaths order ids stop .backward ↔
      (∃ i, order ≤ i ∧ i < ids.size ∧ ids[i]? ≠ some stop ∧ path = (span ids (i - order) i).reverse) ∨
        1 ≤ order ∧ order < ids.size ∧ path = (ids.toList.take order).reverse ++ [stop] := by
  rw [mem_newPaths]
  constructor
  · intro hboth
    obtain ⟨hsize, i, hi, hpath⟩ := hboth
    rcases List.mem_append.mp hpath with hopening | hrun
    · split_ifs at hopening with horder
      · exact Or.inr ⟨horder ▸ Nat.succ_pos i, hsize, List.mem_singleton.mp hopening⟩
      · exact absurd hopening List.not_mem_nil
    · split_ifs at hrun with hback
      · exact Or.inl ⟨i, hback.1, hi, hback.2, List.mem_singleton.mp hrun⟩
      · exact absurd hrun List.not_mem_nil
  · intro hcases
    rcases hcases with ⟨i, horder, hi, hgoes, rfl⟩ | ⟨horder, hsize, rfl⟩
    · refine ⟨Nat.lt_of_le_of_lt horder hi, i, hi, List.mem_append_right _ ?_⟩
      rw [if_pos ⟨horder, hgoes⟩]
      exact List.mem_singleton.mpr rfl
    · -- The opening is added where its last number stands.
      have hlast : order - 1 + 1 = order := Nat.sub_add_cancel horder
      refine ⟨hsize, order - 1, by omega, List.mem_append_left _ ?_⟩
      rw [if_pos hlast]
      exact List.mem_singleton.mpr rfl

theorem mem_newPaths_onward :
    path ∈ newPaths order ids stop .onward ↔ path.length = order + 1 ∧ path <:+: ids.toList := by
  rw [mem_newPaths_onward_iff_span, isInfix_iff_span]

theorem mem_newPaths_backward :
    path ∈ newPaths order ids stop .backward ↔
      (order ≠ 0 ∧ order < ids.size ∧ path = (ids.toList.take order).reverse ++ [stop]) ∨
        (path.length = order + 1 ∧ path.reverse <:+: ids.toList ∧ path.head? ≠ some stop) := by
  rw [mem_newPaths_backward_iff_span, or_comm, Nat.one_le_iff_ne_zero]
  apply or_congr_right
  have hreverse : (path.length = order + 1 ∧ path.reverse <:+: ids.toList) ↔
      ∃ i, i + order < ids.size ∧ path.reverse = span ids i (i + order) := by
    rw [← isInfix_iff_span, List.length_reverse]
  rw [← and_assoc, hreverse]
  constructor
  · intro hexists
    obtain ⟨i, horder, hi, hgoes, rfl⟩ := hexists
    have hstart : i - order + order = i := Nat.sub_add_cancel horder
    refine ⟨⟨i - order, by omega, by rw [List.reverse_reverse, hstart]⟩, ?_⟩
    rwa [head?_reverse_span (Nat.sub_le i order) hi]
  · intro hboth
    obtain ⟨⟨i, hi, hpath⟩, hhead⟩ := hboth
    obtain rfl := List.reverse_eq_iff.mp hpath
    rw [head?_reverse_span (Nat.le_add_right i order) hi] at hhead
    exact ⟨i + order, Nat.le_add_left order i, hi, hhead, by rw [Nat.add_sub_cancel]⟩

theorem length_of_mem_newPaths (h : path ∈ newPaths order ids stop direction) : path.length = order + 1 := by
  cases direction with
  | onward => exact (mem_newPaths_onward.mp h).1
  | backward =>
    rcases mem_newPaths_backward.mp h with ⟨_, hsize, rfl⟩ | ⟨hlength, _⟩
    · rw [List.length_append, List.length_reverse, List.length_take, Array.length_toList,
        Nat.min_eq_left (Nat.le_of_lt hsize)]
      rfl
    · exact hlength

/-- New paths are made of the learned numbers and the stop. -/
theorem mem_of_mem_newPaths (h : path ∈ newPaths order ids stop direction) {id : SymbolId} (hid : id ∈ path) :
    id ∈ ids.toList ∨ id = stop := by
  cases direction with
  | onward => exact Or.inl ((mem_newPaths_onward.mp h).2.subset hid)
  | backward =>
    rcases mem_newPaths_backward.mp h with ⟨_, _, rfl⟩ | ⟨_, hwithin, _⟩
    · rcases List.mem_append.mp hid with hid | hid
      · exact Or.inl (List.mem_of_mem_take (List.mem_reverse.mp hid))
      · exact Or.inr (List.mem_singleton.mp hid)
    · exact Or.inl (hwithin.subset (List.mem_reverse.mpr hid))

/-- A memory is determined by its tries. -/
theorem ext_trie {a b : Memory} (h : ∀ direction, a.trie direction = b.trie direction) : a = b := by
  cases a
  cases b
  exact congr (congrArg Memory.mk (h .onward)) (h .backward)

theorem learn_of_size_le (h : ids.size ≤ order) (stop : SymbolId) (memory : Memory) :
    memory.learn order ids stop = memory :=
  if_pos (Nat.lt_succ_of_le h)

section Sorted

variable {memory : Memory} (h : (memory.trie direction).isSorted = true)

include h

theorem isSorted_learn (order : Nat) (ids : Array SymbolId) (stop : SymbolId) :
    ((memory.learn order ids stop).trie direction).isSorted = true := by
  rw [trie_learn]
  exact Trie.isSorted_insertAll h _

theorem hasPath_learn :
    ((memory.learn order ids stop).trie direction).HasPath path ↔
      (memory.trie direction).HasPath path ∨
        ∃ new ∈ newPaths order ids stop direction, path <+: new := by
  rw [trie_learn, Trie.hasPath_insertAll h]

end Sorted

end Banter.Memory
