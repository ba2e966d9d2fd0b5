import Banter.Proofs.Memory.Learning
import Banter.Reply

/-!
# How a reply grows

Each number that is added to a reply lies at the end of a path of the memory, after the context that it was
picked for. What such a step keeps, a whole reply has.
-/

namespace Banter

theorem Trie.mem_of_pick {trie : Trie} {dice later : Dice} {id : SymbolId}
    (h : trie.pick dice = (some id, later)) : ∃ child ∈ trie.children, child.id = id := by
  unfold Trie.pick at h
  split at h
  next => exact absurd h (by simp)
  next =>
    obtain ⟨hid, _⟩ := Prod.mk.inj h
    obtain ⟨child, hchild, rfl⟩ := Option.map_eq_some_iff.mp hid
    exact ⟨child, Array.mem_of_getElem? hchild, rfl⟩

theorem Trie.exists_pick {trie : Trie} (h : trie.children ≠ #[]) (dice : Dice) :
    ∃ id later, trie.pick dice = (some id, later) := by
  have hpos : 0 < trie.children.size := Array.size_pos_iff.mpr h
  have hlt := Dice.choose_lt hpos dice
  unfold Trie.pick
  split
  next hnone => exact absurd (Array.isEmpty_iff.mp hnone) h
  next =>
    refine ⟨trie.children[(dice.choose trie.children.size).1].id, (dice.choose trie.children.size).2, ?_⟩
    simp only [Array.getElem?_eq_getElem hlt, Option.map_some]

namespace Brain

/-- What is picked for a context follows it on a path. -/
theorem hasPath_of_pick {brain : Brain} {direction : Direction} {context : List SymbolId}
    {dice later : Dice} {id : SymbolId} (hsorted : (brain.memory.trie direction).isSorted = true)
    (h : brain.pick direction context dice = (some id, later)) :
    (brain.memory.trie direction).HasPath (context ++ [id]) := by
  unfold pick at h
  split at h
  next node hnode =>
    obtain ⟨child, hchild, hid⟩ := Trie.mem_of_pick h
    have hnodeSorted := Trie.isSorted_of_find? hsorted hnode
    rw [Trie.hasPath_append]
    exact ⟨node, hnode,
      (Trie.hasPath_cons_iff_mem hnodeSorted).mpr ⟨child, hchild, hid, Trie.hasPath_nil child⟩⟩
  next => exact absurd h (by simp)

/-- A context that something follows has something picked for it. -/
theorem exists_pick {brain : Brain} {direction : Direction} {context : List SymbolId} {id : SymbolId}
    (hsorted : (brain.memory.trie direction).isSorted = true)
    (h : (brain.memory.trie direction).HasPath (context ++ [id])) (dice : Dice) :
    ∃ picked later, brain.pick direction context dice = (some picked, later) := by
  obtain ⟨node, hnode, hpath⟩ := Trie.hasPath_append.mp h
  have hnodeSorted := Trie.isSorted_of_find? hsorted hnode
  obtain ⟨child, hchild, _⟩ := (Trie.hasPath_cons_iff_mem hnodeSorted).mp hpath
  have hchildren : node.children ≠ #[] := Array.ne_empty_of_mem hchild
  unfold pick
  rw [Memory.find?, hnode]
  exact Trie.exists_pick hchildren dice

theorem knownRun?_eq_some {brain : Brain} {ids : Array SymbolId} {length : Nat} {run : List SymbolId}
    (h : brain.knownRun? ids length = some run) :
    run.length ≤ length ∧ run ≠ [] ∧ run <:+: ids.toList ∧ brain.memory.onward.HasPath run := by
  induction length with
  | zero => exact absurd h (by simp [knownRun?])
  | succ length ih =>
    rw [knownRun?] at h
    split at h
    next found hfound =>
      obtain rfl := Option.some.inj h
      obtain ⟨hlength, hrun⟩ := Memory.mem_runs.mp (List.mem_of_find?_eq_some hfound)
      have hpath := List.find?_some hfound
      exact ⟨Nat.le_of_eq hlength, List.ne_nil_of_length_eq_add_one hlength, hrun, hpath⟩
    next =>
      obtain ⟨hlength, hrest⟩ := ih h
      exact ⟨Nat.le_succ_of_le hlength, hrest⟩

/-- A seed is nothing, or a path of one or two numbers onward. -/
theorem hasPath_seed {brain : Brain} (hsorted : (brain.memory.trie .onward).isSorted = true)
    (ids : Array SymbolId) (dice : Dice) :
    (brain.seed ids dice).1.length ≤ order ∧
      (brain.memory.trie .onward).HasPath (brain.seed ids dice).1 := by
  have hpos : 0 < order := Nat.two_pos
  have hfurther := Dice.choose_lt hpos dice
  unfold seed
  cases hdrawn : dice.choose order with
  | mk further later =>
    rw [hdrawn] at hfurther
    dsimp only
    split
    next run hrun =>
      obtain ⟨hlength, _, _, hpath⟩ := knownRun?_eq_some hrun
      exact ⟨Nat.le_trans hlength hfurther, hpath⟩
    next =>
      cases hpick : brain.pick .onward [] later with
      | mk first last =>
        cases first with
        | none => exact ⟨Nat.zero_le _, Trie.hasPath_nil _⟩
        | some id => exact ⟨Nat.le_succ 1, hasPath_of_pick hsorted hpick⟩

section Growing

variable {brain : Brain} {motive : List SymbolId → Prop}
  (hsorted : ∀ direction, (brain.memory.trie direction).isSorted = true)

include hsorted

/-- What each number added at the front keeps, growing backward keeps. -/
theorem growBackward_induction
    (step : ∀ said id, motive said →
      (brain.memory.trie .backward).HasPath ((said.take order).reverse ++ [id]) →
      brain.isStop id = false → motive (id :: said))
    (room : Nat) {said : List SymbolId} (hsaid : motive said) (dice : Dice) :
    motive (brain.growBackward room said dice).1 := by
  induction room generalizing said dice with
  | zero => exact hsaid
  | succ room ih =>
    rw [growBackward]
    split
    next id later hpick =>
      have hpath := hasPath_of_pick (hsorted _) hpick
      split
      next => exact hsaid
      next hgoes =>
        rw [Bool.or_eq_true, not_or, Bool.not_eq_true] at hgoes
        exact ih (step said id hsaid hpath hgoes.1) later
    next => exact hsaid

/-- What each number added at the back keeps, growing onward keeps. -/
theorem growOnward_induction
    (step : ∀ said id, motive said →
      (brain.memory.trie .onward).HasPath (said.drop (said.length - order) ++ [id]) →
      brain.isStop id = false → motive (said ++ [id]))
    (room : Nat) {said : List SymbolId} (hsaid : motive said) (dice : Dice) :
    motive (brain.growOnward room said dice).1 := by
  induction room generalizing said dice with
  | zero => exact hsaid
  | succ room ih =>
    rw [growOnward]
    split
    next id later hpick =>
      have hpath := hasPath_of_pick (hsorted _) hpick
      split
      next => exact hsaid
      next hgoes =>
        have hstep := step said id hsaid hpath ((Bool.not_eq_true _).mp hgoes)
        split
        next => exact hstep
        next => exact ih hstep later
    next => exact hsaid

/-- A composed reply is nothing, or grows from a seed backward and then onward. -/
theorem compose_cases (ids : Array SymbolId) (dice : Dice) :
    (brain.compose ids dice).1 = [] ∨ ∃ seed opened middle last,
      seed.length ≤ order ∧ seed ≠ [] ∧ (brain.memory.trie .onward).HasPath seed ∧
      opened = (brain.growBackward (hardLimit - seed.length) seed middle).1 ∧
      (brain.compose ids dice).1 = (brain.growOnward (hardLimit - opened.length) opened last).1 := by
  obtain ⟨hlength, hpath⟩ := hasPath_seed (hsorted .onward) ids dice
  unfold compose
  cases hseed : brain.seed ids dice with
  | mk said later =>
    rw [hseed] at hlength hpath
    cases said with
    | nil => exact Or.inl rfl
    | cons first rest =>
      exact Or.inr ⟨first :: rest, _, later, _, hlength, List.cons_ne_nil _ _, hpath, rfl, rfl⟩

/-- What a seed has and each number added at either end keeps, a composed reply has. -/
theorem compose_induction
    (seed : ∀ said, said.length ≤ order → said ≠ [] → (brain.memory.trie .onward).HasPath said →
      motive said)
    (front : ∀ said id, motive said →
      (brain.memory.trie .backward).HasPath ((said.take order).reverse ++ [id]) →
      brain.isStop id = false → motive (id :: said))
    (back : ∀ said id, motive said →
      (brain.memory.trie .onward).HasPath (said.drop (said.length - order) ++ [id]) →
      brain.isStop id = false → motive (said ++ [id]))
    (ids : Array SymbolId) (dice : Dice) :
    (brain.compose ids dice).1 = [] ∨ motive (brain.compose ids dice).1 := by
  rcases compose_cases hsorted ids dice with
    hnone | ⟨said, opened, middle, last, hlength, hsome, hpath, rfl, hcompose⟩
  · exact Or.inl hnone
  · have hstart := seed said hlength hsome hpath
    have hopened := growBackward_induction hsorted front (hardLimit - said.length) hstart middle
    rw [hcompose]
    exact Or.inr (growOnward_induction hsorted back _ hopened last)

/-- What all numbers on paths have, those of a composed reply have. -/
theorem forall_mem_compose {good : SymbolId → Prop}
    (hgood : ∀ direction path, (brain.memory.trie direction).HasPath path → ∀ id ∈ path, good id)
    (ids : Array SymbolId) (dice : Dice) : ∀ id ∈ (brain.compose ids dice).1, good id := by
  have hcompose := compose_induction (motive := fun said => ∀ id ∈ said, good id) hsorted
    (fun said _ _ hpath => hgood .onward said hpath)
    (by
      intro said id hsaid hpath _
      have hid := hgood .backward _ hpath id (List.mem_append_right _ List.mem_cons_self)
      exact List.forall_mem_cons.mpr ⟨hid, hsaid⟩)
    (by
      intro said id hsaid hpath _
      have hid := hgood .onward _ hpath id (List.mem_append_right _ List.mem_cons_self)
      exact List.forall_mem_append.mpr ⟨hsaid, List.forall_mem_singleton.mpr hid⟩)
    ids dice
  rcases hcompose with hnone | hsaid
  · simp [hnone]
  · exact hsaid

/-- Growing backward ends where the room does, where nothing can be picked, or before a stop or the end of a
sentence. -/
theorem growBackward_ends (room : Nat) (said : List SymbolId) (dice : Dice) :
    let opened := (brain.growBackward room said dice).1
    opened.length = said.length + room ∨
      (∃ later, (brain.pick .backward (opened.take order).reverse later).1 = none) ∨
      ∃ id, (brain.memory.trie .backward).HasPath ((opened.take order).reverse ++ [id]) ∧
        (brain.isStop id = true ∨ brain.isStop id = false ∧ brain.endsSentence id = true) := by
  induction room generalizing said dice with
  | zero => exact Or.inl rfl
  | succ room ih =>
    rw [growBackward]
    split
    next id later hpick =>
      have hpath := hasPath_of_pick (hsorted _) hpick
      split
      next hends =>
        refine Or.inr (Or.inr ⟨id, hpath, ?_⟩)
        cases hstop : brain.isStop id with
        | true => exact Or.inl rfl
        | false =>
          rw [hstop, Bool.false_or] at hends
          exact Or.inr ⟨rfl, hends⟩
      next =>
        have hrest := ih (id :: said) later
        rwa [List.length_cons, Nat.add_right_comm, Nat.add_assoc] at hrest
    next later hpick => exact Or.inr (Or.inl ⟨dice, by rw [hpick]⟩)

/-- Growing onward ends where the room does, where nothing can be picked, before a stop, or behind the end of
a sentence once the soft limit is reached. -/
theorem growOnward_ends (room : Nat) (said : List SymbolId) (dice : Dice) :
    let grown := (brain.growOnward room said dice).1
    grown.length = said.length + room ∨
      (∃ later, (brain.pick .onward (grown.drop (grown.length - order)) later).1 = none) ∨
      (∃ id, (brain.memory.trie .onward).HasPath (grown.drop (grown.length - order) ++ [id]) ∧
        brain.isStop id = true) ∨
      softLimit ≤ grown.length ∧ ∃ front id, grown = front ++ [id] ∧ brain.endsSentence id = true := by
  induction room generalizing said dice with
  | zero => exact Or.inl rfl
  | succ room ih =>
    rw [growOnward]
    split
    next id later hpick =>
      have hpath := hasPath_of_pick (hsorted _) hpick
      split
      next hstop => exact Or.inr (Or.inr (Or.inl ⟨id, hpath, hstop⟩))
      next =>
        have hlength : (said ++ [id]).length = said.length + 1 := List.length_append
        split
        next hends =>
          simp only [Bool.and_eq_true, decide_eq_true_eq] at hends
          exact Or.inr (Or.inr (Or.inr ⟨hlength ▸ hends.1, said, id, rfl, hends.2⟩))
        next =>
          have hrest := ih (said ++ [id]) later
          rwa [hlength, Nat.add_right_comm, Nat.add_assoc] at hrest
    next later hpick => exact Or.inr (Or.inl ⟨dice, by rw [hpick]⟩)

private theorem two_le_length_growOnward
    (hnext : ∀ id, (brain.memory.trie .onward).HasPath [id] →
      ∃ next, (brain.memory.trie .onward).HasPath [id, next])
    (hgoes : ∀ id next, (brain.memory.trie .onward).HasPath [id, next] → brain.isStop next = false)
    {room : Nat} (hroom : 0 < room) {said : List SymbolId}
    (hsaid : 2 ≤ said.length ∨ ∃ id, said = [id] ∧ (brain.memory.trie .onward).HasPath said)
    (dice : Dice) : 2 ≤ (brain.growOnward room said dice).1.length := by
  have hgrown (room : Nat) {said : List SymbolId} (h : 2 ≤ said.length) (dice : Dice) :
      2 ≤ (brain.growOnward room said dice).1.length := by
    refine growOnward_induction (motive := fun said => 2 ≤ said.length) hsorted ?_ room h dice
    intro said id hlength _ _
    rw [List.length_append]
    exact Nat.le_add_right_of_le hlength
  rcases hsaid with hlong | ⟨id, rfl, hpath⟩
  · exact hgrown room hlong dice
  · cases room with
    | zero => exact absurd hroom (Nat.lt_irrefl 0)
    | succ room =>
      obtain ⟨next, hfollows⟩ := hnext id hpath
      obtain ⟨picked, later, hpick⟩ := @exists_pick brain .onward [id] next (hsorted _) hfollows dice
      have hpicked := hgoes id picked (hasPath_of_pick (hsorted .onward) hpick)
      have hcontext : [id].drop ([id].length - order) = [id] := rfl
      rw [growOnward, hcontext, hpick]
      simp only [hpicked, Bool.false_eq_true, if_false]
      have hpair : 2 ≤ ([id] ++ [picked]).length := Nat.le_refl 2
      split
      next => exact hpair
      next => exact hgrown room hpair later

/-- A composed reply has two numbers at least, if each beginning of a path onward leads to a number that is
not the stop. -/
theorem two_le_length_compose
    (hnext : ∀ id, (brain.memory.trie .onward).HasPath [id] →
      ∃ next, (brain.memory.trie .onward).HasPath [id, next])
    (hgoes : ∀ id next, (brain.memory.trie .onward).HasPath [id, next] → brain.isStop next = false)
    (ids : Array SymbolId) (dice : Dice) :
    (brain.compose ids dice).1 = [] ∨ 2 ≤ (brain.compose ids dice).1.length := by
  rcases compose_cases hsorted ids dice with
    hnone | ⟨seed, opened, middle, last, hlength, hsome, hpath, hopened, hcompose⟩
  · exact Or.inl hnone
  · have hstart : 2 ≤ seed.length ∨ ∃ id, seed = [id] ∧ (brain.memory.trie .onward).HasPath seed := by
      match seed, hsome with
      | [id], _ => exact Or.inr ⟨id, rfl, hpath⟩
      | _ :: _ :: _, _ => exact Or.inl (Nat.le_add_left 2 _)
    by_cases hroom : opened.length < hardLimit
    · rw [hcompose]
      refine Or.inr (two_le_length_growOnward hsorted hnext hgoes (Nat.sub_pos_of_lt hroom) ?_ last)
      rw [hopened]
      refine growBackward_induction (motive := fun said =>
        2 ≤ said.length ∨ ∃ id, said = [id] ∧ (brain.memory.trie .onward).HasPath said)
        hsorted ?_ _ hstart middle
      intro said id hsaid _ _
      apply Or.inl
      rcases hsaid with hlong | ⟨_, rfl, _⟩
      · exact Nat.le_succ_of_le hlong
      · exact Nat.le_refl 2
    · -- A reply that fills the room is long already.
      have hfull : hardLimit - opened.length = 0 := Nat.sub_eq_zero_of_le (Nat.not_lt.mp hroom)
      rw [hcompose, hfull, growOnward]
      exact Or.inr (Nat.le_trans (by decide) (Nat.not_lt.mp hroom))

end Growing

theorem length_growBackward_le (brain : Brain) (room : Nat) (said : List SymbolId) (dice : Dice) :
    (brain.growBackward room said dice).1.length ≤ said.length + room := by
  induction room generalizing said dice with
  | zero => exact Nat.le_refl _
  | succ room ih =>
    rw [growBackward]
    split
    next id later _ =>
      split
      next => exact Nat.le_add_right _ _
      next =>
        have := ih (id :: said) later
        rw [List.length_cons] at this
        omega
    next => exact Nat.le_add_right _ _

theorem length_growOnward_le (brain : Brain) (room : Nat) (said : List SymbolId) (dice : Dice) :
    (brain.growOnward room said dice).1.length ≤ said.length + room := by
  induction room generalizing said dice with
  | zero => exact Nat.le_refl _
  | succ room ih =>
    rw [growOnward]
    split
    next id later _ =>
      have hlength : (said ++ [id]).length = said.length + 1 := List.length_append
      split
      next => exact Nat.le_add_right _ _
      next =>
        split
        next => exact Nat.le_trans (Nat.le_of_eq hlength) (by omega)
        next =>
          have := ih (said ++ [id]) later
          omega
    next => exact Nat.le_add_right _ _

/-- A composed reply is no longer than the hard limit. -/
theorem length_compose_le {brain : Brain}
    (hsorted : ∀ direction, (brain.memory.trie direction).isSorted = true)
    (ids : Array SymbolId) (dice : Dice) : (brain.compose ids dice).1.length ≤ hardLimit := by
  rcases compose_cases hsorted ids dice with
    hnone | ⟨said, opened, middle, last, hlength, _, _, hopened, hcompose⟩
  · rw [hnone]
    exact Nat.zero_le _
  · have hseed : said.length ≤ hardLimit := Nat.le_trans hlength (by decide)
    have hfront := length_growBackward_le brain (hardLimit - said.length) said middle
    have hback := length_growOnward_le brain (hardLimit - opened.length) opened last
    rw [← hopened] at hfront
    rw [hcompose]
    omega

end Brain

end Banter
