import Banter.Proofs.BrainFile.Settling

/-!
# From a brain to its file and back

A brain is read back from its file exactly when its paths are short enough, its numbers are listed and its
texts are not too long. Otherwise the file has a defect.
-/

namespace Banter.BrainFile

theorem fits_node {top : SymbolId} {nodes : Array Trie} :
    fits (.node top nodes) = true ↔ nodes.size ≤ countLimit ∧ ∀ child ∈ nodes, fits child = true := by
  simp [fits, Array.forall_mem_iff_forall_getElem]

private theorem fits_of_mem {top : SymbolId} {nodes : Array Trie} {child : Trie}
    (h : fits (.node top nodes) = true) (hchild : child ∈ nodes) : fits child = true :=
  (fits_node.mp h).2 child hchild

private theorem toNat_ofNat_size {top : SymbolId} {nodes : Array Trie}
    (h : fits (.node top nodes) = true) : (UInt16.ofNat nodes.size).toNat = nodes.size :=
  UInt16.toNat_ofNat_of_lt' (Nat.lt_succ_of_le (fits_node.mp h).1)

theorem fits_iff {trie : Trie} (h : trie.isSorted = true) :
    fits trie = true ↔
      ∀ path node, trie.find? path = some node → node.children.size ≤ countLimit := by
  induction trie using Trie.byChildren with
  | step top nodes ih =>
    rw [fits_node]
    constructor
    · intro hboth path node hnode
      obtain ⟨hsize, hnodes⟩ := hboth
      cases path with
      | nil =>
        obtain rfl := Option.some.inj hnode
        exact hsize
      | cons id path =>
        obtain ⟨child, hchild, _, hfound⟩ := (Trie.find?_cons_eq_some_iff h).mp hnode
        exact (ih child hchild (Trie.isSorted_of_mem h hchild)).mp (hnodes child hchild) path node hfound
    · intro hall
      refine ⟨hall [] _ rfl, ?_⟩
      intro child hchild
      rw [ih child hchild (Trie.isSorted_of_mem h hchild)]
      intro path node hnode
      exact hall (child.id :: path) node
        ((Trie.find?_cons_eq_some_iff h).mpr ⟨child, hchild, rfl, hnode⟩)

/-- Whether the paths of a trie are no longer than a depth and have listed numbers only. -/
def IsReadable (isListed : SymbolId → Bool) (depth : Nat) (trie : Trie) : Prop :=
  ∀ path, trie.HasPath path → path.length ≤ depth ∧ ∀ id ∈ path, isListed id = true

theorem isReadable_zero_iff {isListed : SymbolId → Bool} {trie : Trie}
    (h : trie.isSorted = true) : IsReadable isListed 0 trie ↔ trie.children = #[] := by
  constructor
  · intro hreadable
    rw [Array.eq_empty_iff_forall_not_mem]
    intro child hchild
    have hpath := (Trie.hasPath_cons_iff_mem h).mpr ⟨child, hchild, rfl, Trie.hasPath_nil child⟩
    exact absurd (hreadable _ hpath).1 (by simp)
  · intro hnone path hpath
    cases path with
    | nil => simp
    | cons id path =>
      obtain ⟨child, hchild, _⟩ := (Trie.hasPath_cons_iff_mem h).mp hpath
      rw [hnone] at hchild
      exact absurd hchild (by simp)

theorem isReadable_succ_iff {isListed : SymbolId → Bool} {depth : Nat} {trie : Trie}
    (h : trie.isSorted = true) : IsReadable isListed (depth + 1) trie ↔
      ∀ child ∈ trie.children, isListed child.id = true ∧ IsReadable isListed depth child := by
  constructor
  · intro hreadable child hchild
    have hpath (path : List SymbolId) (hpath : child.HasPath path) :=
      hreadable (child.id :: path) ((Trie.hasPath_cons_iff_mem h).mpr ⟨child, hchild, rfl, hpath⟩)
    refine ⟨(hpath [] (Trie.hasPath_nil child)).2 child.id List.mem_cons_self, ?_⟩
    intro path hchildPath
    obtain ⟨hlength, hlisted⟩ := hpath path hchildPath
    refine ⟨Nat.le_of_succ_le_succ hlength, ?_⟩
    intro id hid
    exact hlisted id (List.mem_cons_of_mem _ hid)
  · intro hchildren path hpath
    cases path with
    | nil => simp
    | cons id path =>
      obtain ⟨child, hchild, rfl, hrest⟩ := (Trie.hasPath_cons_iff_mem h).mp hpath
      obtain ⟨hid, hreadable⟩ := hchildren child hchild
      obtain ⟨hlength, hlisted⟩ := hreadable path hrest
      exact ⟨Nat.succ_le_succ hlength, List.forall_mem_cons.mpr ⟨hid, hlisted⟩⟩

private theorem readNode_wordBytes (isAllowed : SymbolId → Bool) (mayBranch : Bool) (id count : UInt16)
    (rest : List UInt8) :
    readNode isAllowed mayBranch (wordBytes id ++ (wordBytes count ++ rest)) =
      if isAllowed id = false then defect (.unlistedId id)
      else if count ≠ 0 ∧ mayBranch = false then defect .tooDeep
      else .ok ((id, count), rest) := by
  simp only [readNode, readWord_wordBytes, bind, Except.bind, Bool.not_eq_true', Bool.and_eq_true,
    bne_iff_ne, pure, Except.pure]

theorem trieBytes_node (top : SymbolId) (nodes : Array Trie) :
    trieBytes (.node top nodes) =
      wordBytes top ++ (wordBytes (UInt16.ofNat nodes.size) ++ nodes.toList.flatMap trieBytes) := by
  rw [trieBytes, List.append_assoc, Array.toList_map, List.flatMap]

private theorem nodeOf_of_inOrder {nodes : Array Trie} (h : Trie.inOrder nodes = true) (top : SymbolId) :
    nodeOf top nodes = .ok (.node top nodes) := by
  simp [nodeOf, Trie.ofChildren?, h]

/-- A trie is read back if its top is allowed where it stands and its paths can be read. -/
theorem settles_readTrie (isListed isAllowed : SymbolId → Bool) (depth : Nat) {trie : Trie}
    (hsorted : trie.isSorted = true) (hfits : fits trie = true) :
    Settles (readTrie isListed depth isAllowed) trie (trieBytes trie)
      (isAllowed trie.id = true ∧ IsReadable isListed depth trie) := by
  induction depth generalizing trie isAllowed with
  | zero =>
    intro rest
    rw [isReadable_zero_iff hsorted]
    cases trie with
    | node top nodes =>
      have hcount := toNat_ofNat_size hfits
      rw [trieBytes_node, List.append_assoc, List.append_assoc, readTrie, readNode_wordBytes]
      constructor
      · intro hboth
        obtain ⟨hallowed, hnone⟩ := hboth
        obtain rfl : nodes = #[] := hnone
        simp only [Trie.id_node] at hallowed
        simp [hallowed, bind, Except.bind, pure, Except.pure, Trie.leaf]
      · intro hbad
        by_cases hallowed : isAllowed top = false
        · exact ⟨.unlistedId top, by simp [hallowed, bind, Except.bind, defect]⟩
        · have hsome : UInt16.ofNat nodes.size ≠ 0 := by
            intro hzero
            rw [hzero] at hcount
            exact hbad ⟨by simpa using hallowed, Array.size_eq_zero_iff.mp hcount.symm⟩
          exact ⟨.tooDeep, by simp [hallowed, hsome, bind, Except.bind, defect]⟩
  | succ depth ih =>
    intro rest
    rw [isReadable_succ_iff hsorted]
    cases trie with
    | node top nodes =>
      have hcount := toNat_ofNat_size hfits
      have hchildren : ∀ child ∈ nodes, Settles (readTrie isListed depth isListed) child
          (trieBytes child) (isListed child.id = true ∧ IsReadable isListed depth child) := by
        intro child hchild
        exact ih isListed (Trie.isSorted_of_mem hsorted hchild) (fits_of_mem hfits hchild)
      obtain ⟨hgood, hbad⟩ := settles_readMany hchildren rest
      rw [trieBytes_node, List.append_assoc, List.append_assoc, readTrie, readNode_wordBytes]
      constructor
      · intro hboth
        obtain ⟨hallowed, hreadable⟩ := hboth
        simp only [Trie.id_node] at hallowed
        have hnode := nodeOf_of_inOrder (Trie.isSorted_node.mp hsorted).1 top
        simp [hallowed, bind, Except.bind, hcount, hgood hreadable, hnode, pure, Except.pure]
      · intro hnot
        by_cases hallowed : isAllowed top = false
        · exact ⟨.unlistedId top, by simp [hallowed, bind, Except.bind, defect]⟩
        · obtain ⟨cause, hcause⟩ := hbad fun hreadable => hnot ⟨by simpa using hallowed, hreadable⟩
          exact ⟨cause, by simp [hallowed, bind, Except.bind, hcount, hcause, defect]⟩

theorem settles_readLexicon {lexicon : Lexicon} (h : lexicon.size ≤ countLimit) :
    Settles readLexicon lexicon
      (wordBytes (UInt16.ofNat lexicon.size) ++ lexicon.symbols.toList.flatMap symbolBytes)
      (∀ symbol ∈ lexicon.symbols, HasShortText symbol) := by
  intro rest
  have hcount : (UInt16.ofNat lexicon.size).toNat = lexicon.symbols.size :=
    UInt16.toNat_ofNat_of_lt' (Nat.lt_succ_of_le h)
  have hlist := Lexicon.ofList_eq_ok_iff.mpr (Eq.refl lexicon.symbols.toList)
  have hsymbols : ∀ symbol ∈ lexicon.symbols,
      Settles readSymbol symbol (symbolBytes symbol) (HasShortText symbol) :=
    fun symbol _ => settles_readSymbol symbol
  obtain ⟨hgood, hbad⟩ := settles_readMany hsymbols rest
  rw [List.append_assoc, readLexicon]
  simp only [readWord_wordBytes, bind, Except.bind, hcount]
  constructor
  · intro hshort
    simp only [hgood hshort, hlist, pure, Except.pure]
  · intro hlong
    obtain ⟨cause, hcause⟩ := hbad hlong
    exact ⟨cause, by simp only [hcause, defect]⟩

/-- What a brain needs to be read back from its file: paths that are not too long, numbers of its own
symbols on them, and texts whose lengths can be read. -/
structure IsRestorable (brain : Brain) : Prop where
  shallow : ∀ direction path, (brain.memory.trie direction).HasPath path → path.length ≤ 3
  listed : ∀ direction path, (brain.memory.trie direction).HasPath path →
    ∀ id ∈ path, id.toNat < brain.lexicon.size
  short : ∀ symbol ∈ brain.lexicon.symbols, HasShortText symbol

theorem isRestorable_iff {brain : Brain} :
    IsRestorable brain ↔ (∀ symbol ∈ brain.lexicon.symbols, HasShortText symbol) ∧ ∀ direction,
      IsReadable (·.toNat < brain.lexicon.size) depthLimit (brain.memory.trie direction) := by
  constructor
  · intro hboth
    obtain ⟨hshallow, hlisted, hshort⟩ := hboth
    refine ⟨hshort, ?_⟩
    intro direction path hpath
    refine ⟨hshallow direction path hpath, ?_⟩
    intro id hid
    exact decide_eq_true (hlisted direction path hpath id hid)
  · intro hboth
    obtain ⟨hshort, hreadable⟩ := hboth
    refine ⟨?_, ?_, hshort⟩
    · intro direction path hpath
      exact (hreadable direction path hpath).1
    · intro direction path hpath id hid
      exact of_decide_eq_true ((hreadable direction path hpath).2 id hid)

theorem settles_decode {brain : Brain} (honward : brain.memory.onward.isSorted = true)
    (hbackward : brain.memory.backward.isSorted = true) (hfile : hasFile brain = true) :
    (IsRestorable brain → decode (brainBytes brain) = .ok brain) ∧
      (¬IsRestorable brain → ∃ cause, decode (brainBytes brain) = .error (.defective cause)) := by
  simp only [hasFile, Bool.and_eq_true, decide_eq_true_eq] at hfile
  obtain ⟨⟨hsize, hfitsOnward⟩, hfitsBackward⟩ := hfile
  have hlexicon := settles_readLexicon hsize (trieBytes brain.memory.onward ++ trieBytes brain.memory.backward)
  have hfirst := settles_readTrie (·.toNat < brain.lexicon.size) (fun _ => true) depthLimit honward
    hfitsOnward (trieBytes brain.memory.backward)
  have hsecond := settles_readTrie (·.toNat < brain.lexicon.size) (fun _ => true) depthLimit hbackward
    hfitsBackward []
  simp only [true_and, List.append_nil] at hfirst hsecond
  rw [isRestorable_iff, Direction.forall_iff, brainBytes, List.append_assoc (_ ++ _), decode]
  constructor
  · intro hboth
    obtain ⟨hshort, hreadable, hreadable'⟩ := hboth
    simp only [hlexicon.1 hshort, readPaths, hfirst.1 hreadable, hsecond.1 hreadable', bind, Except.bind,
      List.isEmpty_nil, if_true, pure, Except.pure]
  · intro hnot
    by_cases hshort : ∀ symbol ∈ brain.lexicon.symbols, HasShortText symbol
    · by_cases hreadable : IsReadable (·.toNat < brain.lexicon.size) depthLimit brain.memory.onward
      · obtain ⟨cause, hcause⟩ := hsecond.2 fun hreadable' => hnot ⟨hshort, hreadable, hreadable'⟩
        exact ⟨cause, by simp only [hlexicon.1 hshort, readPaths, hfirst.1 hreadable, hcause, bind,
          Except.bind, defect]⟩
      · obtain ⟨cause, hcause⟩ := hfirst.2 hreadable
        exact ⟨cause, by simp only [hlexicon.1 hshort, readPaths, hcause, bind, Except.bind, defect]⟩
    · obtain ⟨cause, hcause⟩ := hlexicon.2 hshort
      exact ⟨cause, by simp only [hcause, bind, Except.bind, defect]⟩

theorem hasFile_iff {brain : Brain} (honward : brain.memory.onward.isSorted = true)
    (hbackward : brain.memory.backward.isSorted = true) :
    hasFile brain = true ↔ brain.lexicon.size ≤ 65535 ∧ ∀ direction path node,
      brain.memory.find? direction path = some node → node.children.size ≤ 65535 := by
  rw [Direction.forall_iff]
  simp only [hasFile, Bool.and_eq_true, decide_eq_true_eq, fits_iff honward, fits_iff hbackward, and_assoc]
  rfl

/-- A brain has a file exactly if its counts fit 16 bits, and is read back from it exactly if it is
restorable. Reading the file of any other brain meets a defect. -/
theorem decode_encode (brain : Brain) (honward : brain.memory.onward.isSorted = true)
    (hbackward : brain.memory.backward.isSorted = true) :
    ((∃ bytes, encode brain = .ok bytes) ↔ brain.lexicon.size ≤ 65535 ∧ ∀ direction path node,
      brain.memory.find? direction path = some node → node.children.size ≤ 65535) ∧
    ∀ bytes, encode brain = .ok bytes →
      (decode bytes = .ok brain ↔ IsRestorable brain) ∧
      (¬IsRestorable brain → ∃ cause, decode bytes = .error (.defective cause)) ∧
      ∀ other, decode bytes = .ok other → other = brain := by
  have hfile := hasFile_iff honward hbackward
  constructor
  · rw [← hfile, encode]
    by_cases h : hasFile brain = true <;> simp [h]
  · intro bytes hbytes
    by_cases h : hasFile brain = true
    · rw [encode, if_pos h] at hbytes
      obtain rfl := Except.ok.inj hbytes
      obtain ⟨hgood, hbad⟩ := settles_decode honward hbackward h
      have hread : ∀ other, decode (brainBytes brain) = .ok other → IsRestorable brain := by
        intro other hother
        by_cases hrestorable : IsRestorable brain
        · exact hrestorable
        · obtain ⟨cause, hcause⟩ := hbad hrestorable
          rw [hcause] at hother
          exact absurd hother (by simp)
      refine ⟨⟨hread brain, hgood⟩, hbad, ?_⟩
      intro other hother
      rw [hgood (hread other hother)] at hother
      exact (Except.ok.inj hother).symm
    · rw [encode, if_neg h] at hbytes
      exact absurd hbytes (by simp)

theorem decode_encode_address :
    let brain : Brain :=
      ⟨(Lexicon.empty.enterAll [.word "SEE", .address "http://x.io/é", .stop]).2,
        ⟨.node 7 #[.node 0 #[.node 1 #[.leaf 2]]], .empty⟩⟩
    brain.memory.onward.isSorted = true ∧ brain.memory.backward.isSorted = true ∧
      ∃ bytes, encode brain = .ok bytes ∧ decode bytes = .ok brain := by
  intro brain
  have hsymbols : brain.lexicon.symbols = #[.word "SEE", .address "http://x.io/é", .stop] := by
    decide +kernel
  have hsize : brain.lexicon.size = 3 := by rw [Lexicon.size, hsymbols]; rfl
  have hdeep : (Trie.node 1 #[.leaf 2]).isSorted = true := by
    simp [Trie.isSorted_node, Trie.inOrder, Trie.isAscending]
  have hmiddle : (Trie.node 0 #[.node 1 #[.leaf 2]]).isSorted = true := by
    simp [Trie.isSorted_node, Trie.inOrder, Trie.isAscending]
  have honward : brain.memory.onward.isSorted = true := by
    simp [brain, Trie.isSorted_node, Trie.inOrder, Trie.isAscending]
  have hbackward : brain.memory.backward.isSorted = true := Trie.isSorted_leaf 0
  have hbytes : encode brain = .ok (brainBytes brain) := by
    rw [encode, if_pos]
    simp [hasFile, hsize, brain, fits_node, Trie.leaf, Trie.empty, countLimit]
  refine ⟨honward, hbackward, _, hbytes, ?_⟩
  apply ((decode_encode brain honward hbackward).2 _ hbytes).1.mpr
  rw [isRestorable_iff, Direction.forall_iff, hsymbols, hsize]
  refine ⟨?_, ?_, ?_⟩
  · simp [HasShortText]
    decide
  · have hthird : IsReadable (·.toNat < 3) 0 (.leaf 2) :=
      (isReadable_zero_iff (Trie.isSorted_leaf 2)).mpr rfl
    have hsecond : IsReadable (·.toNat < 3) 1 (.node 1 #[.leaf 2]) :=
      (isReadable_succ_iff hdeep).mpr (by simpa [Trie.leaf] using hthird)
    have hfirst : IsReadable (·.toNat < 3) 2 (.node 0 #[.node 1 #[.leaf 2]]) :=
      (isReadable_succ_iff hmiddle).mpr (by simpa using hsecond)
    have hwhole : IsReadable (·.toNat < 3) 3 brain.memory.onward :=
      (isReadable_succ_iff honward).mpr (by simpa [brain] using hfirst)
    exact hwhole
  · exact (isReadable_succ_iff hbackward).mpr (by simp [brain, Trie.empty, Trie.leaf])

end Banter.BrainFile
