import Banter.Proofs.Trie.Order

/-!
# The paths of a trie

A trie in order is looked at as the set of paths that lead to a node. Adding a path adds just that path and
what leads to it, and keeps the order.
-/

namespace Banter.Trie

def HasPath (trie : Trie) (path : List SymbolId) : Prop :=
  (trie.find? path).isSome = true

@[simp] theorem hasPath_nil (trie : Trie) : trie.HasPath [] := by
  simp [HasPath, find?]

theorem find?_cons (trie : Trie) (id : SymbolId) (path : List SymbolId) :
    trie.find? (id :: path) = (trie.child? id).bind (·.find? path) := by
  cases trie
  rfl

theorem find?_append (trie : Trie) (front back : List SymbolId) :
    trie.find? (front ++ back) = (trie.find? front).bind (·.find? back) := by
  induction front generalizing trie with
  | nil => rfl
  | cons id front ih =>
    rw [List.cons_append, find?_cons, find?_cons]
    cases trie.child? id with
    | none => rfl
    | some child => exact ih child

theorem hasPath_cons {trie : Trie} {id : SymbolId} {path : List SymbolId} :
    trie.HasPath (id :: path) ↔ ∃ child, trie.child? id = some child ∧ child.HasPath path := by
  rw [HasPath, find?_cons]
  cases trie.child? id <;> simp [HasPath]

theorem hasPath_append {trie : Trie} {front back : List SymbolId} :
    trie.HasPath (front ++ back) ↔ ∃ node, trie.find? front = some node ∧ node.HasPath back := by
  rw [HasPath, find?_append]
  cases trie.find? front <;> simp [HasPath]

theorem HasPath.of_prefix {trie : Trie} {path front : List SymbolId} (h : trie.HasPath path)
    (hfront : front <+: path) : trie.HasPath front := by
  obtain ⟨back, rfl⟩ := hfront
  obtain ⟨node, hnode, _⟩ := hasPath_append.mp h
  simp [HasPath, hnode]

theorem hasPath_leaf {top : SymbolId} {path : List SymbolId} : (leaf top).HasPath path ↔ path = [] := by
  cases path with
  | nil => simp
  | cons id path => simp [HasPath, find?_cons, child?, leaf, isAt]

/-- A path that is not empty leads through a child. -/
theorem children_ne_empty {trie : Trie} {id : SymbolId} {path : List SymbolId}
    (h : trie.HasPath (id :: path)) : trie.children ≠ #[] := by
  intro hnone
  have htop := node_id_children trie
  rw [hnone, ← leaf] at htop
  rw [← htop, hasPath_leaf] at h
  exact List.cons_ne_nil id path h

private theorem find?_of_split {front back : List Trie} {middle : Option Trie} {id : SymbolId}
    (hfront : ∀ x ∈ front, x.id < id) (hmiddle : ∀ x ∈ middle, x.id = id)
    (hback : ∀ x ∈ back, id < x.id) :
    (front ++ middle.toList ++ back).find? (·.id == id) = middle := by
  have hnone : front.find? (·.id == id) = none := by
    rw [List.find?_eq_none]
    intro x hx
    simpa using (UInt16.ne_of_lt (hfront x hx))
  have hnone' : back.find? (·.id == id) = none := by
    rw [List.find?_eq_none]
    intro x hx
    simpa using (UInt16.ne_of_lt (hback x hx)).symm
  rw [List.find?_append, List.find?_append, hnone, hnone']
  cases middle with
  | none => rfl
  | some a => simp [hmiddle a rfl]

/-- Bisection finds what a search through all children finds. -/
theorem child?_eq_find? {trie : Trie} (h : inOrder trie.children = true) (id : SymbolId) :
    trie.child? id = trie.children.toList.find? (·.id == id) := by
  obtain ⟨front, back, hsplit, _, _, hfront, hmiddle, hback⟩ := children_split h id
  rw [hsplit, find?_of_split hfront hmiddle hback]

theorem child?_eq_some_iff {trie : Trie} (h : inOrder trie.children = true) {id : SymbolId}
    {child : Trie} : trie.child? id = some child ↔ child ∈ trie.children ∧ child.id = id := by
  obtain ⟨front, back, hsplit, _, _, hfront, hmiddle, hback⟩ := children_split h id
  constructor
  · intro hchild
    refine ⟨?_, hmiddle child hchild⟩
    rw [← Array.mem_toList_iff, hsplit, hchild]
    simp
  · intro hboth
    obtain ⟨hmem, hid⟩ := hboth
    rw [← Array.mem_toList_iff, hsplit, List.mem_append, List.mem_append] at hmem
    rcases hmem with (hmem | hmem) | hmem
    · exact absurd hid (UInt16.ne_of_lt (hfront child hmem))
    · simpa using hmem
    · exact absurd hid (UInt16.ne_of_lt (hback child hmem)).symm

theorem find?_cons_eq_some_iff {trie node : Trie} (h : trie.isSorted = true) {id : SymbolId}
    {path : List SymbolId} : trie.find? (id :: path) = some node ↔
      ∃ child ∈ trie.children, child.id = id ∧ child.find? path = some node := by
  rw [find?_cons, Option.bind_eq_some_iff]
  simp only [child?_eq_some_iff (inOrder_children h), and_assoc]

theorem hasPath_cons_iff_mem {trie : Trie} (h : trie.isSorted = true) {id : SymbolId}
    {path : List SymbolId} :
    trie.HasPath (id :: path) ↔ ∃ child ∈ trie.children, child.id = id ∧ child.HasPath path := by
  rw [hasPath_cons]
  simp only [child?_eq_some_iff (inOrder_children h), and_assoc]

theorem exists_hasPath {trie : Trie} (h : trie.isSorted = true) (hsome : trie.children ≠ #[]) :
    ∃ id, trie.HasPath [id] := by
  obtain ⟨child, hchild⟩ := Array.exists_mem_of_ne_empty _ hsome
  exact ⟨child.id, (hasPath_cons_iff_mem h).mpr ⟨child, hchild, rfl, hasPath_nil child⟩⟩

theorem isSorted_of_child? {trie child : Trie} (h : trie.isSorted = true) {id : SymbolId}
    (hchild : trie.child? id = some child) : child.isSorted = true :=
  isSorted_of_mem h ((child?_eq_some_iff (inOrder_children h)).mp hchild).1

theorem isSorted_of_find? {trie node : Trie} (h : trie.isSorted = true) {path : List SymbolId}
    (hnode : trie.find? path = some node) : node.isSorted = true := by
  induction path generalizing trie with
  | nil =>
    obtain rfl := Option.some.inj hnode
    exact h
  | cons id path ih =>
    obtain ⟨child, hchild, _, hfound⟩ := (find?_cons_eq_some_iff h).mp hnode
    exact ih (isSorted_of_mem h hchild) hfound

theorem isSorted_getD {trie : Trie} (h : trie.isSorted = true) (id : SymbolId) :
    ((trie.child? id).getD (leaf id)).isSorted = true := by
  cases hchild : trie.child? id with
  | none => exact isSorted_leaf id
  | some child => exact isSorted_of_child? h hchild

@[simp] theorem id_insert (trie : Trie) (path : List SymbolId) : (trie.insert path).id = trie.id := by
  cases trie with
  | node top nodes =>
    cases path with
    | nil => rfl
    | cons id path =>
      rw [insert]
      split <;> rfl

/-- Adding a path changes the child that the path begins with, or puts it in its place. -/
private theorem children_insert {trie : Trie} (h : inOrder trie.children = true) (id : SymbolId)
    (path : List SymbolId) :
    ∃ front back, trie.children.toList = front ++ (trie.child? id).toList ++ back ∧
      (trie.insert (id :: path)).children.toList =
        front ++ [((trie.child? id).getD (leaf id)).insert path] ++ back ∧
      (∀ x ∈ front, x.id < id) ∧ (∀ x ∈ back, id < x.id) := by
  obtain ⟨front, back, hsplit, hposition, hat, hfront, hmiddle, hback⟩ := children_split h id
  refine ⟨front, back, hsplit, ?_, hfront, hback⟩
  cases trie with
  | node top nodes =>
    simp only [children_node] at hsplit hposition hat
    rw [insert, hposition, hat]
    cases hchild : (node top nodes).child? id with
    | none =>
      rw [hchild] at hsplit
      simp only [Option.isSome_none, Bool.false_eq_true, if_false, children_node, Option.getD_none]
      have hnodes : nodes = (front ++ back).toArray := by simpa using congrArg List.toArray hsplit
      rw [hnodes, List.insertIdxIfInBounds_toArray]
      simpa [List.insertIdx] using List.modifyTailIdx_add (List.cons _) 0 front back
    | some child =>
      rw [hchild] at hsplit
      simp only [Option.isSome_some, if_true, children_node, Option.getD_some]
      rw [Array.toList_modify, hsplit]
      simpa [List.modify] using List.modifyTailIdx_add (List.modifyHead (·.insert path)) 0 front (child :: back)

private theorem id_getD_insert {trie : Trie} (h : inOrder trie.children = true) (id : SymbolId)
    (path : List SymbolId) : (((trie.child? id).getD (leaf id)).insert path).id = id := by
  rw [id_insert]
  cases hchild : trie.child? id with
  | none => rfl
  | some child => exact ((child?_eq_some_iff h).mp hchild).2

private theorem inOrder_insert {trie : Trie} (h : inOrder trie.children = true) (id : SymbolId)
    (path : List SymbolId) : inOrder (trie.insert (id :: path)).children = true := by
  obtain ⟨front, back, hsplit, hinsert, hfront, hback⟩ := children_insert h id path
  have hid := id_getD_insert h id path
  have hascending := inOrder_iff.mp h
  rw [hsplit] at hascending
  obtain ⟨hleft, hback', hcross⟩ := List.pairwise_append.mp hascending
  rw [inOrder_iff, hinsert]
  refine List.pairwise_append.mpr ⟨List.pairwise_append.mpr ⟨?_, ?_, ?_⟩, hback', ?_⟩
  · exact (List.pairwise_append.mp hleft).1
  · exact List.pairwise_singleton _ _
  · intro x hx y hy
    rw [List.mem_singleton.mp hy, hid]
    exact hfront x hx
  · intro x hx y hy
    rcases List.mem_append.mp hx with hx | hx
    · exact UInt16.lt_trans (hfront x hx) (hback y hy)
    · rw [List.mem_singleton.mp hx, hid]
      exact hback y hy

theorem child?_insert {trie : Trie} (h : inOrder trie.children = true) (id : SymbolId)
    (path : List SymbolId) (other : SymbolId) :
    (trie.insert (id :: path)).child? other =
      if other = id then some (((trie.child? id).getD (leaf id)).insert path) else trie.child? other := by
  obtain ⟨front, back, hsplit, hinsert, hfront, hback⟩ := children_insert h id path
  have hid := id_getD_insert h id path
  rw [child?_eq_find? (inOrder_insert h id path), child?_eq_find? h other, hinsert]
  split
  next hother =>
    subst hother
    exact @find?_of_split front back (some _) other hfront (by simpa using hid) hback
  next hother =>
    have hmiddle : (trie.child? id).toList.find? (·.id == other) = none := by
      rw [List.find?_eq_none]
      intro x hx
      have := ((child?_eq_some_iff h).mp (Option.mem_toList.mp hx)).2
      simpa [this] using Ne.symm hother
    rw [hsplit, List.find?_append, List.find?_append, List.find?_append, List.find?_append, hmiddle]
    simp [hid, Ne.symm hother]

theorem isSorted_insert {trie : Trie} (h : trie.isSorted = true) (path : List SymbolId) :
    (trie.insert path).isSorted = true := by
  induction path generalizing trie with
  | nil => cases trie; exact h
  | cons id path ih =>
    have horder := inOrder_children h
    have hnew := ih (isSorted_getD h id)
    rw [← node_id_children (trie.insert (id :: path)), isSorted_node]
    refine ⟨inOrder_insert horder id path, ?_⟩
    intro child hmem
    have hfound := (child?_eq_some_iff (inOrder_insert horder id path)).mpr ⟨hmem, rfl⟩
    rw [child?_insert horder] at hfound
    split at hfound
    · rw [← Option.some.inj hfound]
      exact hnew
    · exact isSorted_of_child? h hfound

/-- Adding a path adds what leads to it and nothing else. -/
theorem hasPath_insert {trie : Trie} (h : trie.isSorted = true) {path other : List SymbolId} :
    (trie.insert path).HasPath other ↔ trie.HasPath other ∨ other <+: path := by
  induction path generalizing trie other with
  | nil =>
    have : trie.insert [] = trie := by cases trie; rfl
    rw [this, List.prefix_nil]
    constructor
    · exact Or.inl
    · intro hcases
      rcases hcases with h | rfl
      · exact h
      · exact hasPath_nil trie
  | cons id path ih =>
    have horder := inOrder_children h
    cases other with
    | nil => simp
    | cons first rest =>
      rw [hasPath_cons, hasPath_cons, List.cons_prefix_cons, child?_insert horder]
      split
      next hfirst =>
        subst hfirst
        have hchild : ((trie.child? first).getD (leaf first)).HasPath rest ∨ rest <+: path ↔
            (∃ child, trie.child? first = some child ∧ child.HasPath rest) ∨ rest <+: path := by
          cases trie.child? first with
          | none =>
            simp only [Option.getD_none, hasPath_leaf, reduceCtorEq, false_and, exists_false, false_or,
              or_iff_right_iff_imp]
            rintro rfl
            exact List.nil_prefix
          | some child => simp
        simp only [Option.some.injEq, exists_eq_left', true_and, ih (isSorted_getD h first), hchild]
      next hfirst => simp [hfirst]

theorem isSorted_insertAll {trie : Trie} (h : trie.isSorted = true) (paths : List (List SymbolId)) :
    (trie.insertAll paths).isSorted = true := by
  induction paths generalizing trie with
  | nil => exact h
  | cons path paths ih => exact ih (isSorted_insert h path)

theorem hasPath_insertAll {trie : Trie} (h : trie.isSorted = true) {paths : List (List SymbolId)}
    {other : List SymbolId} :
    (trie.insertAll paths).HasPath other ↔ trie.HasPath other ∨ ∃ path ∈ paths, other <+: path := by
  induction paths generalizing trie with
  | nil => simp [insertAll]
  | cons path paths ih =>
    have hinsert : trie.insertAll (path :: paths) = (trie.insert path).insertAll paths := rfl
    rw [hinsert, ih (isSorted_insert h path), hasPath_insert h]
    simp [or_assoc]

end Banter.Trie
