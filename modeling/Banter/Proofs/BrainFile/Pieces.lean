import Banter.BrainFile.Output
import Banter.Proofs.BrainFile.RoundTrip

namespace Banter.BrainFile

namespace Output

/-- Whether all of some bytes are written if a condition holds, and else the writing ends with a fault. -/
structure Writes (output : Output) (fits : Bool) (bytes : List UInt8) : Prop where
  fault? : output.fault? = if fits then none else some (.full countLimit)
  bytes : fits = true → output.bytes = bytes

variable {first second : Output} {fits fits' : Bool} {bytes bytes' : List UInt8}

theorem Writes.fault?_eq_none_iff (h : first.Writes fits bytes) : first.fault? = none ↔ fits = true := by
  rw [h.fault?]
  cases fits <;> simp

theorem writes_whole (bytes : List UInt8) : (whole bytes).Writes true bytes :=
  ⟨rfl, fun _ => rfl⟩

theorem Writes.andThen (hfirst : first.Writes fits bytes) (hsecond : second.Writes fits' bytes') :
    (first.andThen second).Writes (fits && fits') (bytes ++ bytes') := by
  cases fits with
  | true =>
    have hnone : first.fault? = none := hfirst.fault?
    simp only [Output.andThen, hnone, Bool.true_and]
    exact ⟨hsecond.fault?, fun hfits => by rw [hfirst.bytes rfl, hsecond.bytes hfits]⟩
  | false =>
    have hsome : first.fault? = some (.full countLimit) := hfirst.fault?
    simp only [Output.andThen, hsome, Bool.false_and]
    exact ⟨hsome, fun hfits => absurd hfits (by simp)⟩

theorem writes_inOrder {α : Type} {output : α → Output} {fits : α → Bool} {bytes : α → List UInt8}
    {items : List α} (h : ∀ item ∈ items, (output item).Writes (fits item) (bytes item)) :
    (inOrder (items.map output)).Writes (items.all fits) (items.flatMap bytes) := by
  induction items with
  | nil => exact writes_whole []
  | cons item items ih =>
    obtain ⟨hitem, hitems⟩ := List.forall_mem_cons.mp h
    exact hitem.andThen (ih hitems)

end Output

theorem writes_countOutput (count : Nat) :
    (countOutput count).Writes (count ≤ countLimit) (wordBytes (UInt16.ofNat count)) := by
  by_cases h : count ≤ countLimit
  · simp only [countOutput, h, if_true, decide_true]
    exact Output.writes_whole _
  · simp only [countOutput, h, if_false, decide_false]
    exact ⟨rfl, fun hfits => absurd hfits (by simp)⟩

theorem writes_trieOutput (trie : Trie) : (trieOutput trie).Writes (fits trie) (trieBytes trie) := by
  induction trie using Trie.byChildren with
  | step top nodes ih =>
    have hchildren : (Output.inOrder (nodes.toList.map trieOutput)).Writes (nodes.toList.all fits)
        (nodes.toList.flatMap trieBytes) :=
      Output.writes_inOrder fun child hchild => ih child (Array.mem_toList_iff.mp hchild)
    have hfits : fits (.node top nodes) = (decide (nodes.size ≤ countLimit) && nodes.toList.all fits) := by
      rw [Bool.eq_iff_iff, fits_node]
      simp [Array.forall_mem_iff_forall_getElem]
    rw [hfits, trieBytes_node, trieOutput, Array.toList_map]
    exact (Output.writes_whole _).andThen ((writes_countOutput _).andThen hchildren)

theorem writes_brainOutput (brain : Brain) :
    (brainOutput brain).Writes (hasFile brain) (brainBytes brain) := by
  have hall := (writes_countOutput brain.lexicon.size).andThen
    ((Output.writes_whole (brain.lexicon.symbols.toList.flatMap symbolBytes)).andThen
      ((writes_trieOutput brain.memory.onward).andThen
        ((writes_trieOutput brain.memory.backward).andThen (Output.writes_whole []))))
  simpa [hasFile, brainBytes, brainOutput, Output.inOrder, Bool.and_assoc] using hall

/-- The content of the file of a brain is what is written, unless the writing ends with a fault. -/
theorem encode_eq_brainOutput (brain : Brain) : encode brain =
    match (brainOutput brain).fault? with
    | none => .ok (brainOutput brain).bytes
    | some fault => .error fault := by
  have hwrites := writes_brainOutput brain
  rw [hwrites.fault?, encode]
  by_cases h : hasFile brain = true
  · simp only [if_pos h, hwrites.bytes h]
  · simp only [if_neg h]

end Banter.BrainFile
