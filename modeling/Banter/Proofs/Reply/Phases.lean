import Banter.Proofs.Memory.Spans
import Banter.Proofs.Reply.Heeding

/-!
# The phases of a reply

A reply is a seed with what was added before it and then behind it. The seed is the leftmost of the longest known
runs of the heard numbers, no longer than was drawn. Nothing before the seed ends a text or a sentence, and behind
it a sentence that ends at the soft limit or past it ends the reply.
-/

namespace Banter.Brain

variable {brain : Brain} {ids : Array SymbolId} {drawn : Nat}

def Begins (brain : Brain) (id : SymbolId) : Prop :=
  ∃ child ∈ brain.memory.onward.children, child.id = id

/-- Whether no two of the heard numbers in a row are known. -/
def Unpaired (brain : Brain) (ids : Array SymbolId) : Prop :=
  ∀ i, i + 1 < ids.size → ¬brain.memory.onward.HasPath (Memory.span ids i (i + 1))

/-- What a reply to the heard numbers grows from, where a number of them was drawn: the leftmost two that are
known in a row, if two may be taken, or else the leftmost that begins a path, or else any number that does. -/
inductive Seeds (brain : Brain) (ids : Array SymbolId) (drawn : Nat) : List SymbolId → Prop
  | pair (i : Nat) (two : drawn = 2) (bound : i + 1 < ids.size)
      (known : brain.memory.onward.HasPath (Memory.span ids i (i + 1)))
      (leftmost : ∀ j < i, ¬brain.memory.onward.HasPath (Memory.span ids j (j + 1))) :
      Seeds brain ids drawn (Memory.span ids i (i + 1))
  | single (i : Nat) (bound : i < ids.size) (unpaired : drawn = 2 → brain.Unpaired ids)
      (begins : brain.Begins ids[i]) (leftmost : ∀ j, (h : j < i) → ¬brain.Begins ids[j]) :
      Seeds brain ids drawn [ids[i]]
  | unheard (id : SymbolId) (unpaired : drawn = 2 → brain.Unpaired ids)
      (unknown : ∀ heard ∈ ids, ¬brain.Begins heard) (begins : brain.Begins id) :
      Seeds brain ids drawn [id]

theorem hasPath_singleton_iff (h : brain.memory.onward.isSorted = true) {id : SymbolId} :
    brain.memory.onward.HasPath [id] ↔ brain.Begins id := by
  simp only [Trie.hasPath_cons_iff_mem h, Trie.hasPath_nil, and_true, Begins]

/-- What is known of the runs that were searched through for one to grow from. -/
private theorem knownRun?_cases (length : Nat) :
    (∃ i, i + length < ids.size ∧ brain.knownRun? ids (length + 1) = some (Memory.span ids i (i + length)) ∧
      brain.memory.onward.HasPath (Memory.span ids i (i + length)) ∧
      ∀ j < i, ¬brain.memory.onward.HasPath (Memory.span ids j (j + length))) ∨
    (brain.knownRun? ids (length + 1) = brain.knownRun? ids length ∧
      ∀ i, i + length < ids.size → ¬brain.memory.onward.HasPath (Memory.span ids i (i + length))) := by
  rw [knownRun?]
  split
  next run hrun =>
    obtain ⟨i, hi, rfl, hknown, hleftmost⟩ := Memory.find?_runs_eq_some hrun
    exact Or.inl ⟨i, hi, rfl, hknown, fun j hj => Bool.eq_false_iff.mp (hleftmost j hj)⟩
  next hnone =>
    exact Or.inr ⟨rfl, fun i hi => Bool.eq_false_iff.mp (Memory.find?_runs_eq_none hnone hi)⟩

/-- Once no pair is left to take, the search finds a number that seeds a reply, or leaves the seed to the dice. -/
private theorem seeds_of_unpaired (hsorted : brain.memory.onward.isSorted = true)
    (unpaired : drawn = 2 → brain.Unpaired ids) :
    (∃ run, brain.knownRun? ids 1 = some run ∧ brain.Seeds ids drawn run) ∨
      (brain.knownRun? ids 1 = none ∧ ∀ id, brain.Begins id → brain.Seeds ids drawn [id]) := by
  rcases @knownRun?_cases brain ids 0 with ⟨i, hi, hrun, hknown, hleftmost⟩ | ⟨hrun, hnone⟩
  · left
    simp only [Nat.add_zero] at hi hrun hknown hleftmost
    rw [Memory.span_self hi] at hrun hknown
    refine ⟨_, hrun, .single i hi unpaired ((hasPath_singleton_iff hsorted).mp hknown) ?_⟩
    intro j hj
    rw [← hasPath_singleton_iff hsorted, ← Memory.span_self]
    exact hleftmost j hj
  · right
    refine ⟨hrun, fun id hid => .unheard id unpaired ?_ hid⟩
    intro heard hheard
    obtain ⟨i, hi, rfl⟩ := Array.mem_iff_getElem.mp hheard
    rw [← hasPath_singleton_iff hsorted, ← Memory.span_self]
    exact hnone i hi

private theorem seeds_of_knownRun? (hsorted : brain.memory.onward.isSorted = true) {further : Nat}
    (hfurther : further < order) :
    (∃ run, brain.knownRun? ids (further + 1) = some run ∧ brain.Seeds ids (further + 1) run) ∨
      (brain.knownRun? ids (further + 1) = none ∧
        ∀ id, brain.Begins id → brain.Seeds ids (further + 1) [id]) := by
  match further, hfurther with
  | 0, _ => exact seeds_of_unpaired hsorted fun htwo => absurd htwo (by decide)
  | 1, _ =>
    rcases @knownRun?_cases brain ids 1 with ⟨i, hi, hrun, hknown, hleftmost⟩ | ⟨hrun, hnone⟩
    · exact Or.inl ⟨_, hrun, .pair i rfl hi hknown hleftmost⟩
    · rw [hrun]
      exact seeds_of_unpaired hsorted fun _ => hnone

/-- A seed comes from the heard numbers, or from the dice if none of them begins a path. -/
theorem seeds_seed (hsorted : brain.memory.onward.isSorted = true)
    (hsome : brain.memory.onward.children ≠ #[]) (ids : Array SymbolId) (dice : Dice) :
    brain.Seeds ids ((dice.choose order).1 + 1) (brain.seed ids dice).1 := by
  have hpos : 0 < order := Nat.two_pos
  have hfurther := Dice.choose_lt hpos dice
  unfold seed
  cases hdrawn : dice.choose order with
  | mk further later =>
    rw [hdrawn] at hfurther
    rcases @seeds_of_knownRun? brain ids hsorted further hfurther with ⟨run, hrun, hseeds⟩ | ⟨hnone, hseeds⟩
    · simp only [hrun]
      exact hseeds
    · obtain ⟨id, last, hpick⟩ := Trie.exists_pick hsome later
      have hfirst : brain.pick .onward [] later = (some id, last) := hpick
      simp only [hnone, hfirst]
      exact hseeds id (Trie.mem_of_pick hpick)

/-- What is added before a seed ends neither a text nor a sentence. -/
theorem growBackward_eq_append (brain : Brain) (room : Nat) (said : List SymbolId) (dice : Dice) :
    ∃ opening, (brain.growBackward room said dice).1 = opening ++ said ∧
      ∀ id ∈ opening, brain.isStop id = false ∧ brain.endsSentence id = false := by
  induction room generalizing said dice with
  | zero => exact ⟨[], rfl, by simp⟩
  | succ room ih =>
    rw [growBackward]
    split
    next id later _ =>
      split
      next => exact ⟨[], rfl, by simp⟩
      next hgoes =>
        rw [Bool.or_eq_true, not_or, Bool.not_eq_true, Bool.not_eq_true] at hgoes
        obtain ⟨opening, hgrown, hopening⟩ := ih (id :: said) later
        refine ⟨opening ++ [id], by rw [hgrown, List.append_assoc]; rfl, ?_⟩
        exact List.forall_mem_append.mpr ⟨hopening, List.forall_mem_singleton.mpr hgoes⟩
    next => exact ⟨[], rfl, by simp⟩

/-- Whether numbers go on from others as a reply does: none of them is the stop, and once the soft limit is
reached none of them but the last ends a sentence. -/
structure GoesOn (brain : Brain) (said closing : List SymbolId) : Prop where
  goes : ∀ id ∈ closing, brain.isStop id = false
  ends : ∀ front id back, closing = front ++ id :: back → brain.endsSentence id = true →
    softLimit ≤ (said ++ front ++ [id]).length → back = []

theorem goesOn_nil (brain : Brain) (said : List SymbolId) : brain.GoesOn said [] where
  goes := by simp
  ends := by simp

theorem GoesOn.cons {said closing : List SymbolId} {id : SymbolId} (h : brain.GoesOn (said ++ [id]) closing)
    (hgoes : brain.isStop id = false)
    (hends : brain.endsSentence id = true → softLimit ≤ said.length + 1 → closing = []) :
    brain.GoesOn said (id :: closing) where
  goes := List.forall_mem_cons.mpr ⟨hgoes, h.goes⟩
  ends front last back hsplit hsentence hlong := by
    cases front with
    | nil =>
      obtain ⟨rfl, rfl⟩ := List.cons.inj hsplit
      exact hends hsentence (by simpa using hlong)
    | cons first front =>
      obtain ⟨rfl, hrest⟩ := List.cons.inj hsplit
      exact h.ends front last back hrest hsentence (by simpa using hlong)

/-- What is added behind a seed goes on from it up to the end of a sentence at the soft limit or past it. -/
theorem growOnward_eq_append (brain : Brain) (room : Nat) (said : List SymbolId) (dice : Dice) :
    ∃ closing, (brain.growOnward room said dice).1 = said ++ closing ∧ brain.GoesOn said closing := by
  induction room generalizing said dice with
  | zero => exact ⟨[], (List.append_nil said).symm, goesOn_nil brain said⟩
  | succ room ih =>
    rw [growOnward]
    split
    next id later _ =>
      split
      next => exact ⟨[], (List.append_nil said).symm, goesOn_nil brain said⟩
      next hgoes =>
        rw [Bool.not_eq_true] at hgoes
        split
        next => exact ⟨[id], rfl, (goesOn_nil brain _).cons hgoes fun _ _ => rfl⟩
        next hcontinues =>
          simp only [Bool.and_eq_true, decide_eq_true_eq, not_and] at hcontinues
          obtain ⟨closing, hgrown, hclosing⟩ := ih (said ++ [id]) later
          refine ⟨id :: closing, by rw [hgrown, List.append_assoc]; rfl, hclosing.cons hgoes ?_⟩
          intro hends hlong
          exact absurd hends (hcontinues hlong)
    next => exact ⟨[], (List.append_nil said).symm, goesOn_nil brain said⟩

/-- What is composed is the seed between what is added before it and what goes on from it. -/
theorem exists_opening_closing {dice : Dice} (hseed : (brain.seed ids dice).1 ≠ []) :
    ∃ opening closing, (brain.compose ids dice).1 = opening ++ (brain.seed ids dice).1 ++ closing ∧
      (∀ id ∈ opening, brain.isStop id = false ∧ brain.endsSentence id = false) ∧
      brain.GoesOn (opening ++ (brain.seed ids dice).1) closing := by
  unfold compose
  cases hdrawn : brain.seed ids dice with
  | mk seed later =>
    rw [hdrawn] at hseed
    cases seed with
    | nil => exact absurd rfl hseed
    | cons first rest =>
      obtain ⟨opening, hopened, hopening⟩ :=
        brain.growBackward_eq_append (hardLimit - (first :: rest).length) (first :: rest) later
      obtain ⟨closing, hgrown, hclosing⟩ :=
        brain.growOnward_eq_append (hardLimit - (opening ++ first :: rest).length) (opening ++ first :: rest)
          (brain.growBackward (hardLimit - (first :: rest).length) (first :: rest) later).2
      refine ⟨opening, closing, ?_, hopening, hclosing⟩
      simp only [hopened, hgrown]

/-- A brain says nothing exactly when it knows nothing to begin with. Anything else it says is a seed with numbers
before it and behind it, a hundred at most in all. None of those before ends a text or a sentence. None of those
behind ends a text, and one that ends a sentence is the last if it makes 25 with those up to it. -/
theorem compose_phases (hsorted : ∀ direction, (brain.memory.trie direction).isSorted = true)
    (ids : Array SymbolId) (dice : Dice) :
    let said := (brain.compose ids dice).1
    (said = [] ↔ brain.memory.onward.children = #[]) ∧
    (brain.memory.onward.children ≠ #[] → ∃ opening seed closing,
      said = opening ++ seed ++ closing ∧ said.length ≤ 100 ∧
      brain.Seeds ids ((dice.choose 2).1 + 1) seed ∧
      (∀ id ∈ opening, brain.isStop id = false ∧ brain.endsSentence id = false) ∧
      (∀ id ∈ closing, brain.isStop id = false) ∧
      ∀ front id back, closing = front ++ id :: back → brain.endsSentence id = true →
        25 ≤ (opening ++ seed ++ front ++ [id]).length → back = []) := by
  intro said
  refine ⟨compose_eq_nil_iff hsorted ids dice, ?_⟩
  intro hsome
  have hseeds := seeds_seed (hsorted .onward) hsome ids dice
  have horder : order = 2 := rfl
  rw [horder] at hseeds
  have hseed : (brain.seed ids dice).1 ≠ [] := by
    rw [ne_eq, seed_eq_nil_iff (hsorted .onward)]
    exact hsome
  have hlength : said.length ≤ hardLimit := length_compose_le hsorted ids dice
  obtain ⟨opening, closing, hsplit, hopening, hclosing⟩ := exists_opening_closing hseed
  exact ⟨opening, _, closing, hsplit, hlength, hseeds, hopening, hclosing.goes, hclosing.ends⟩

theorem compose_phases_pair :
    let brain := (Brain.empty.learn "see it. the cat sat. it was!").2
    let heard : Array SymbolId := #[9, 5, 3, 4, 1]
    (∀ direction, (brain.memory.trie direction).isSorted = true) ∧ brain.memory.onward.children ≠ #[] ∧
      ∃ opening seed closing, [3, 4, 5, 2, 1, 6, 7] = opening ++ seed ++ closing ∧ brain.Seeds heard 2 seed ∧
        (∀ id ∈ opening, brain.isStop id = false ∧ brain.endsSentence id = false) ∧
        ∀ id ∈ closing, brain.isStop id = false := by
  intro brain heard
  have hsorted : ∀ direction, (brain.memory.trie direction).isSorted = true :=
    (isSound_learn isSound_empty "see it. the cat sat. it was!").sorted
  have hsaid : (brain.compose heard (.mixed 1)).1 = [3, 4, 5, 2, 1, 6, 7] := by decide +kernel
  have hdrawn : ((Dice.mixed 1).choose 2).1 = 1 := by decide +kernel
  obtain ⟨hnil, hphases⟩ := compose_phases hsorted heard (.mixed 1)
  have hsome : brain.memory.onward.children ≠ #[] := by
    rw [ne_eq, ← hnil, hsaid]
    exact List.cons_ne_nil _ _
  obtain ⟨opening, seed, closing, hsplit, _, hseeds, hopening, hclosing, _⟩ := hphases hsome
  rw [hsaid] at hsplit
  rw [hdrawn] at hseeds
  exact ⟨hsorted, hsome, opening, seed, closing, hsplit, hseeds, hopening, hclosing⟩

end Banter.Brain
