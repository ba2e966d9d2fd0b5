import Banter.Trie

/-!
# The order of children

The children of a node in order split at any number into those below it, the child that has it, and those
above it. Bisection finds the place of the split, so that no child in order is overlooked.
-/

namespace Banter.Trie

/-- Induction over the nodes of a trie, from the children to their parent. -/
@[elab_as_elim]
theorem byChildren {motive : Trie → Prop} (trie : Trie)
    (step : ∀ top nodes, (∀ child ∈ nodes, motive child) → motive (node top nodes)) : motive trie :=
  match trie with
  | node top nodes => step top nodes fun child hchild =>
      have := Array.sizeOf_lt_of_mem hchild
      byChildren child step
termination_by sizeOf trie

@[simp] theorem id_node (top : SymbolId) (nodes : Array Trie) : (node top nodes).id = top := rfl

@[simp] theorem children_node (top : SymbolId) (nodes : Array Trie) :
    (node top nodes).children = nodes := rfl

theorem node_id_children (trie : Trie) : node trie.id trie.children = trie := by
  cases trie
  rfl

theorem isAscending_iff {ids : List SymbolId} : isAscending ids = true ↔ ids.Pairwise (· < ·) := by
  induction ids with
  | nil => simp [isAscending]
  | cons a rest ih =>
    cases rest with
    | nil => simp [isAscending]
    | cons b rest =>
      rw [isAscending, Bool.and_eq_true, decide_eq_true_eq, ih]
      constructor
      · intro hboth
        obtain ⟨hab, hrest⟩ := hboth
        refine List.pairwise_cons.mpr ⟨?_, hrest⟩
        intro c hc
        rcases List.mem_cons.mp hc with rfl | hc
        · exact hab
        · exact UInt16.lt_trans hab ((List.pairwise_cons.mp hrest).1 c hc)
      · intro h
        obtain ⟨ha, hrest⟩ := List.pairwise_cons.mp h
        exact ⟨ha b List.mem_cons_self, hrest⟩

theorem inOrder_iff {nodes : Array Trie} :
    inOrder nodes = true ↔ nodes.toList.Pairwise (fun a b => a.id < b.id) := by
  rw [inOrder, isAscending_iff, List.pairwise_map]

theorem isSorted_node {top : SymbolId} {nodes : Array Trie} :
    (node top nodes).isSorted = true ↔ inOrder nodes = true ∧ ∀ child ∈ nodes, child.isSorted = true := by
  simp [isSorted, Array.forall_mem_iff_forall_getElem]

theorem inOrder_children {trie : Trie} (h : trie.isSorted = true) : inOrder trie.children = true := by
  cases trie
  exact (isSorted_node.mp h).1

theorem isSorted_of_mem {trie child : Trie} (h : trie.isSorted = true) (hchild : child ∈ trie.children) :
    child.isSorted = true := by
  cases trie
  exact (isSorted_node.mp h).2 child hchild

@[simp] theorem isSorted_leaf (top : SymbolId) : (leaf top).isSorted = true := by
  rw [leaf, isSorted_node]
  simp [inOrder, isAscending]

/-- Nodes in order fall into those whose numbers are below a given one and those whose numbers are not. -/
private theorem exists_split {nodes : List Trie} (h : nodes.Pairwise (fun a b => a.id < b.id))
    (id : SymbolId) :
    ∃ front back, nodes = front ++ back ∧ (∀ x ∈ front, x.id < id) ∧ (∀ x ∈ back, ¬x.id < id) := by
  induction nodes with
  | nil => exact ⟨[], [], rfl, by simp, by simp⟩
  | cons a rest ih =>
    obtain ⟨ha, hrest⟩ := List.pairwise_cons.mp h
    by_cases hlt : a.id < id
    · obtain ⟨front, back, rfl, hfront, hback⟩ := ih hrest
      refine ⟨a :: front, back, rfl, ?_, hback⟩
      intro x hx
      rcases List.mem_cons.mp hx with rfl | hx
      · exact hlt
      · exact hfront x hx
    · refine ⟨[], a :: rest, rfl, by simp, ?_⟩
      intro x hx
      rcases List.mem_cons.mp hx with rfl | hx
      · exact hlt
      · intro hxid
        exact hlt (UInt16.lt_trans (ha x hx) hxid)

private theorem position_eq {nodes : Array Trie} {front back : List Trie} {id : SymbolId}
    (hsplit : nodes.toList = front ++ back) (hfront : ∀ x ∈ front, x.id < id)
    (hback : ∀ x ∈ back, ¬x.id < id) : position nodes id = front.length := by
  have hsize : nodes.size = front.length + back.length := by
    rw [← Array.length_toList, hsplit, List.length_append]
  apply Bisect.count_eq (by omega)
  intro i hi
  rw [← Array.getElem?_toList, hsplit]
  by_cases hlt : i < front.length
  · rw [List.getElem?_append_left hlt, List.getElem?_eq_getElem hlt]
    simpa [hlt] using hfront _ (List.getElem_mem hlt)
  · have hbound : i - front.length < back.length := by omega
    rw [List.getElem?_append_right (by omega), List.getElem?_eq_getElem hbound]
    simpa [hlt] using hback _ (List.getElem_mem hbound)

/-- The place of a number among children in order: what stands before it, the child with the number if
there is one, and what stands after it. -/
theorem children_split {trie : Trie} (h : inOrder trie.children = true) (id : SymbolId) :
    ∃ front back, trie.children.toList = front ++ (trie.child? id).toList ++ back ∧
      position trie.children id = front.length ∧
      isAt trie.children front.length id = (trie.child? id).isSome ∧
      (∀ x ∈ front, x.id < id) ∧ (∀ x ∈ trie.child? id, x.id = id) ∧ (∀ x ∈ back, id < x.id) := by
  obtain ⟨front, rest, hsplit, hfront, hrest⟩ := exists_split (inOrder_iff.mp h) id
  have hposition := position_eq hsplit hfront hrest
  have hat : trie.children[front.length]? = rest.head? := by
    rw [← Array.getElem?_toList, hsplit, List.getElem?_append_right (Nat.le_refl _), Nat.sub_self,
      List.head?_eq_getElem?]
  have hascending := inOrder_iff.mp h
  rw [hsplit] at hascending
  have hchild : trie.child? id = rest.head?.filter (·.id == id) := by
    rw [child?, hposition, isAt, hat]
    cases rest <;> simp [Option.filter]
  cases rest with
  | nil =>
    refine ⟨front, [], ?_, hposition, ?_, hfront, ?_, by simp⟩ <;> simp [hchild, hsplit, isAt, hat]
  | cons a back =>
    have hback : ∀ x ∈ back, a.id < x.id :=
      (List.pairwise_cons.mp (List.pairwise_append.mp hascending).2.1).1
    by_cases hid : a.id = id
    · refine ⟨front, back, ?_, hposition, ?_, hfront, ?_, hid ▸ hback⟩ <;>
        simp [hchild, hsplit, isAt, hat, hid, Option.filter]
    · have hgt : id < a.id := by
        have := hrest a List.mem_cons_self
        rw [UInt16.lt_iff_toNat_lt] at this ⊢
        have : a.id.toNat ≠ id.toNat := fun heq => hid (UInt16.toNat_inj.mp heq)
        omega
      refine ⟨front, a :: back, ?_, hposition, ?_, hfront, ?_, ?_⟩
      · simp [hchild, hsplit, hid, Option.filter]
      · simp [hchild, isAt, hat, hid, Option.filter]
      · simp [hchild, hid, Option.filter]
      · intro x hx
        rcases List.mem_cons.mp hx with rfl | hx
        · exact hgt
        · exact UInt16.lt_trans hgt (hback x hx)

end Banter.Trie
