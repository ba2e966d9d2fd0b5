import Mathlib.Data.List.Sort
import Banter.Proofs.Trie.Paths

namespace Banter.Trie

theorem hasPath_of_mem {trie child : Trie} (h : trie.isSorted = true) (hchild : child ∈ trie.children)
    {path : List SymbolId} : trie.HasPath (child.id :: path) ↔ child.HasPath path := by
  rw [hasPath_cons, (child?_eq_some_iff (inOrder_children h)).mpr ⟨hchild, rfl⟩]
  simp

theorem eq_of_inOrder {nodes others : Array Trie} (h : inOrder nodes = true)
    (hothers : inOrder others = true) (hmem : ∀ child, child ∈ nodes ↔ child ∈ others) :
    nodes = others := by
  have hirrefl : Std.Irrefl fun a b : Trie => a.id < b.id := ⟨fun a => UInt16.lt_irrefl a.id⟩
  have hantisymm : Std.Antisymm fun a b : Trie => a.id < b.id :=
    ⟨fun _ _ hab hba => absurd hba (UInt16.lt_asymm hab)⟩
  apply Array.toList_inj.mp
  apply List.Pairwise.eq_of_mem_iff (inOrder_iff.mp h) (inOrder_iff.mp hothers)
  intro child
  rw [Array.mem_toList_iff, Array.mem_toList_iff, hmem]

/-- A trie in order is determined by its top and its paths. -/
theorem ext_hasPath {a b : Trie} (ha : a.isSorted = true) (hb : b.isSorted = true) (hid : a.id = b.id)
    (hpaths : ∀ path, a.HasPath path ↔ b.HasPath path) : a = b := by
  induction a using byChildren generalizing b with
  | step top nodes ih =>
    -- Children with the same number have the same paths, so that they are equal by induction.
    have hsame (child : Trie) (hchild : child ∈ nodes) (other : Trie) (hother : other ∈ b.children)
        (hchildId : child.id = other.id) : child = other := by
      apply ih child hchild (isSorted_of_mem ha hchild) (isSorted_of_mem hb hother) hchildId
      intro path
      rw [← hasPath_of_mem ha hchild, ← hasPath_of_mem hb hother, ← hchildId]
      exact hpaths _
    have hmem (child : Trie) : child ∈ nodes ↔ child ∈ b.children := by
      constructor
      · intro hchild
        have hpath := (hasPath_of_mem ha hchild).mpr (hasPath_nil child)
        obtain ⟨other, hother, hotherId, _⟩ := (hasPath_cons_iff_mem hb).mp ((hpaths _).mp hpath)
        rw [hsame child hchild other hother hotherId.symm]
        exact hother
      · intro hchild
        have hpath := (hasPath_of_mem hb hchild).mpr (hasPath_nil child)
        obtain ⟨other, hother, hotherId, _⟩ := (hasPath_cons_iff_mem ha).mp ((hpaths _).mpr hpath)
        rw [← hsame other hother child hchild hotherId]
        exact hother
    have hnodes := eq_of_inOrder (inOrder_children ha) (inOrder_children hb) hmem
    rw [children_node] at hnodes
    rw [id_node] at hid
    rw [← node_id_children b, ← hid, ← hnodes]

@[simp] theorem id_insertAll (trie : Trie) (paths : List (List SymbolId)) :
    (trie.insertAll paths).id = trie.id := by
  induction paths generalizing trie with
  | nil => rfl
  | cons path paths ih => exact (ih (trie.insert path)).trans (id_insert trie path)

/-- Adding paths that lead to a node already changes nothing. -/
theorem insertAll_eq_self {trie : Trie} (h : trie.isSorted = true) {paths : List (List SymbolId)}
    (hpaths : ∀ path ∈ paths, trie.HasPath path) : trie.insertAll paths = trie := by
  apply ext_hasPath (isSorted_insertAll h paths) h (id_insertAll trie paths)
  intro other
  rw [hasPath_insertAll h]
  constructor
  · intro hcases
    rcases hcases with hother | ⟨path, hpath, hleads⟩
    · exact hother
    · have hwhole := hpaths path hpath
      exact hwhole.of_prefix hleads
  · exact Or.inl

/-- Adding a path keeps a trie in order and leads to what led somewhere before and to what the path begins
with. Paths with the same beginnings make the same trie, in whatever order and however often they are added. -/
theorem insert_canonical {trie : Trie} (h : trie.isSorted = true) :
    (∀ path, (trie.insert path).isSorted = true ∧ ∀ other, ((trie.insert path).find? other).isSome = true ↔
      (trie.find? other).isSome = true ∨ other <+: path) ∧
    ∀ first second : List (List SymbolId),
      (∀ other, (∃ path ∈ first, other <+: path) ↔ ∃ path ∈ second, other <+: path) →
      trie.insertAll first = trie.insertAll second ∧
        ∀ other, (trie.insertAll first).find? other = (trie.insertAll second).find? other := by
  constructor
  · intro path
    exact ⟨isSorted_insert h path, fun _ => hasPath_insert h⟩
  · intro first second hsame
    have heq : trie.insertAll first = trie.insertAll second := by
      apply ext_hasPath (isSorted_insertAll h first) (isSorted_insertAll h second)
      · rw [id_insertAll, id_insertAll]
      · intro path
        rw [hasPath_insertAll h, hasPath_insertAll h, hsame]
    exact ⟨heq, fun other => by rw [heq]⟩

theorem insert_canonical_repeats :
    let trie := node 7 #[leaf 1, leaf 4]
    let first := [[1, 2, 3], [1], [0, 2]]
    let second := [[0, 2], [1, 2, 3], [0], [1, 2, 3]]
    trie.isSorted = true ∧
      (∀ other, (∃ path ∈ first, other <+: path) ↔ ∃ path ∈ second, other <+: path) ∧
      trie.insertAll first = trie.insertAll second := by
  intro trie first second
  have hsorted : trie.isSorted = true := by simp [trie, isSorted_node, inOrder, isAscending, leaf]
  have hsame (other : List SymbolId) :
      (∃ path ∈ first, other <+: path) ↔ ∃ path ∈ second, other <+: path := by
    have hshort : other <+: [1] → other <+: [1, 2, 3] := fun h => h.trans ⟨[2, 3], rfl⟩
    have hlow : other <+: [0] → other <+: [0, 2] := fun h => h.trans ⟨[2], rfl⟩
    simp only [first, second, List.exists_mem_cons_iff, List.not_mem_nil, false_and, exists_false, or_false]
    grind
  exact ⟨hsorted, hsame, ((insert_canonical hsorted).2 first second hsame).1⟩

end Banter.Trie
