import Banter.Proofs.Memory.Learning
import Banter.Proofs.Trie.Canonical

namespace Banter.Memory

variable {order : Nat} {ids : Array SymbolId} {stop : SymbolId} {memory : Memory}

theorem exists_newPaths_onward_iff {path : List SymbolId} :
    (∃ new ∈ newPaths order ids stop .onward, path <+: new) ↔
      ∃ i, i + order < ids.size ∧ path <+: span ids i (i + order) := by
  simp only [mem_newPaths_onward_iff_span]
  constructor
  · intro hexists
    obtain ⟨_, ⟨i, hi, rfl⟩, hleads⟩ := hexists
    exact ⟨i, hi, hleads⟩
  · intro hexists
    obtain ⟨i, hi, hleads⟩ := hexists
    exact ⟨_, ⟨i, hi, rfl⟩, hleads⟩

theorem exists_newPaths_backward_iff (hsize : order < ids.size) {path : List SymbolId} :
    (∃ new ∈ newPaths order ids stop .backward, path <+: new) ↔
      (∃ i, order ≤ i ∧ i < ids.size ∧ ids[i]? ≠ some stop ∧ path <+: (span ids (i - order) i).reverse) ∨
        1 ≤ order ∧ path <+: (ids.toList.take order).reverse ++ [stop] := by
  simp only [mem_newPaths_backward_iff_span]
  constructor
  · intro hexists
    obtain ⟨_, ⟨i, hi, hlast, hgoes, rfl⟩ | ⟨horder, _, rfl⟩, hleads⟩ := hexists
    · exact Or.inl ⟨i, hi, hlast, hgoes, hleads⟩
    · exact Or.inr ⟨horder, hleads⟩
  · intro hcases
    rcases hcases with ⟨i, hi, hlast, hgoes, hleads⟩ | ⟨horder, hleads⟩
    · exact ⟨_, Or.inl ⟨i, hi, hlast, hgoes, rfl⟩, hleads⟩
    · exact ⟨_, Or.inr ⟨horder, hsize, rfl⟩, hleads⟩

/-- A sequence that was learned leaves nothing to learn from it. -/
theorem learn_learn (h : ∀ direction, (memory.trie direction).isSorted = true) (order : Nat)
    (ids : Array SymbolId) (stop : SymbolId) :
    (memory.learn order ids stop).learn order ids stop = memory.learn order ids stop := by
  apply ext_trie
  intro direction
  rw [trie_learn order ids stop (memory.learn order ids stop)]
  apply Trie.insertAll_eq_self (isSorted_learn (h direction) order ids stop)
  intro path hpath
  exact (hasPath_learn (h direction)).mpr (Or.inr ⟨path, hpath, List.prefix_refl path⟩)

/-- A sequence that is too short for a path is learned without a trace. Any other adds, at whatever order, what
leads onward along its runs, and backward along those of its reversed runs that do not start from the stop and
along the opening, which ends with the stop. The tries stay in order, and learning the sequence again changes
nothing. -/
theorem learn_adds {memory : Memory} (h : ∀ direction, (memory.trie direction).isSorted = true) (order : Nat)
    (ids : Array SymbolId) (stop : SymbolId) :
    let learned := memory.learn order ids stop
    (ids.size < order + 1 → learned = memory) ∧
    (order + 1 ≤ ids.size →
      (∀ path, (learned.find? .onward path).isSome = true ↔ (memory.find? .onward path).isSome = true ∨
        ∃ i, i + order < ids.size ∧ path <+: span ids i (i + order)) ∧
      ∀ path, (learned.find? .backward path).isSome = true ↔ (memory.find? .backward path).isSome = true ∨
        (∃ i, order ≤ i ∧ i < ids.size ∧ ids[i]? ≠ some stop ∧ path <+: (span ids (i - order) i).reverse) ∨
        1 ≤ order ∧ path <+: (ids.toList.take order).reverse ++ [stop]) ∧
    (∀ direction, (learned.trie direction).isSorted = true) ∧
    learned.learn order ids stop = learned := by
  intro learned
  have hpaths (direction : Direction) (path : List SymbolId) :
      (learned.find? direction path).isSome = true ↔ (memory.find? direction path).isSome = true ∨
        ∃ new ∈ newPaths order ids stop direction, path <+: new := hasPath_learn (h direction)
  refine ⟨fun hshort => learn_of_size_le (Nat.le_of_lt_succ hshort) stop memory, ?_,
    fun direction => isSorted_learn (h direction) order ids stop, learn_learn h order ids stop⟩
  intro hlong
  constructor
  · intro path
    rw [hpaths .onward path, exists_newPaths_onward_iff]
  · intro path
    rw [hpaths .backward path, exists_newPaths_backward_iff hlong]

/-- With a stop in the middle, the run that ends in it leads nowhere backward. -/
theorem learn_adds_early_stop :
    let memory : Memory := ⟨.node 7 #[.leaf 3], .leaf 0⟩
    let learned := memory.learn 1 #[1, 4, 2] 4
    (∀ direction, (memory.trie direction).isSorted = true) ∧
      (learned.find? .onward [1, 4]).isSome = true ∧ (learned.find? .backward [1, 4]).isSome = true ∧
      ¬(learned.find? .backward [4]).isSome = true ∧ learned.learn 1 #[1, 4, 2] 4 = learned := by
  intro memory learned
  have hsorted : ∀ direction, (memory.trie direction).isSorted = true := by
    rw [Direction.forall_iff]
    constructor <;> simp [memory, trie, Trie.isSorted_node, Trie.inOrder, Trie.isAscending, Trie.leaf]
  obtain ⟨_, hadds, _, hagain⟩ := learn_adds hsorted 1 #[1, 4, 2] 4
  obtain ⟨honward, hbackward⟩ := hadds (by decide)
  refine ⟨hsorted, (honward [1, 4]).mpr (Or.inr ⟨0, by decide, by decide⟩),
    (hbackward [1, 4]).mpr (Or.inr (Or.inr ⟨by decide, by decide⟩)), ?_, hagain⟩
  rw [hbackward [4]]
  rintro (hbefore | ⟨i, hi, hlast, hgoes, hleads⟩ | ⟨_, hleads⟩)
  · exact absurd hbefore (by decide)
  · have hcases : i = 1 ∨ i = 2 := by
      have : i < 3 := hlast
      omega
    rcases hcases with rfl | rfl
    · exact hgoes rfl
    · exact absurd hleads (by decide)
  · exact absurd hleads (by decide)

end Banter.Memory
