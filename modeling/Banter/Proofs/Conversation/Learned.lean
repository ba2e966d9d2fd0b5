import Banter.Proofs.Brain.Knowledge
import Banter.Proofs.Conversation.Run

namespace Banter

/-- The tries of a brain hold exactly what texts lead to. Onward there are the runs of three numbers.
Backward there are the reversed runs that do not end in the stop, and the reversed beginnings followed by
the stop. -/
structure Brain.HoldsJust (brain : Brain) (learned : List String) : Prop where
  spelled : ∀ text ∈ learned, ∃ ids, brain.lexicon.Spells ids (symbolsOf text)
  onward : ∀ a b c, (brain.memory.trie .onward).HasPath [a, b, c] ↔
    ∃ text ∈ learned, ∃ ids, brain.lexicon.Spells ids (symbolsOf text) ∧ [a, b, c] <:+: ids
  backward : ∀ a b c, (brain.memory.trie .backward).HasPath [a, b, c] ↔
    ∃ text ∈ learned, ∃ ids, brain.lexicon.Spells ids (symbolsOf text) ∧
      ([c, b, a] <:+: ids ∧ brain.lexicon.symbol? a ≠ some .stop ∨
        3 ≤ ids.length ∧ [b, a] <+: ids ∧ brain.lexicon.symbol? c = some .stop)
  leaves : ∀ direction path node, brain.memory.find? direction path = some node →
    node.children = #[] → path = [] ∨ path.length = 3
  stops : ∀ direction path id, (brain.memory.trie direction).HasPath (path ++ [id]) →
    brain.lexicon.symbol? id = some .stop → path.length = 2
  sorted : ∀ direction, (brain.memory.trie direction).isSorted = true

private theorem mem_newPaths_onward_iff {ids : Array SymbolId} {stop a b c : SymbolId} :
    [a, b, c] ∈ Memory.newPaths Brain.order ids stop .onward ↔ [a, b, c] <:+: ids.toList := by
  rw [Memory.mem_newPaths_onward]
  exact and_iff_right rfl

private theorem mem_newPaths_backward_iff {ids : Array SymbolId} {stop a b c : SymbolId} :
    [a, b, c] ∈ Memory.newPaths Brain.order ids stop .backward ↔
      [c, b, a] <:+: ids.toList ∧ a ≠ stop ∨
        3 ≤ ids.toList.length ∧ [b, a] <+: ids.toList ∧ c = stop := by
  rw [Memory.mem_newPaths_backward]
  constructor
  · intro hcases
    rcases hcases with ⟨_, hsize, hpath⟩ | ⟨_, hrun, hhead⟩
    · obtain ⟨hpair, hlast⟩ := List.append_inj' (show [a, b] ++ [c] = _ from hpath) rfl
      refine Or.inr ⟨hsize, ?_, List.singleton_inj.mp hlast⟩
      have hbeginning := congrArg List.reverse hpair
      rw [List.reverse_reverse] at hbeginning
      rw [show [b, a] = [a, b].reverse from rfl, hbeginning]
      exact List.take_prefix _ _
    · exact Or.inl ⟨hrun, fun ha => hhead (congrArg some ha)⟩
  · intro hcases
    rcases hcases with ⟨hrun, ha⟩ | ⟨hsize, ⟨rest, hrest⟩, rfl⟩
    · exact Or.inr ⟨rfl, hrun, fun hhead => ha (Option.some.inj hhead)⟩
    · refine Or.inl ⟨by decide, hsize, ?_⟩
      rw [← hrest]
      rfl

theorem Brain.Knows.holdsJust {brain : Brain} {learned : List String} (h : brain.Knows learned) :
    brain.HoldsJust learned where
  spelled text htext := by
    obtain ⟨ids, hids⟩ := h.spelled text htext
    exact ⟨ids.toList, hids⟩
  onward a b c := by
    rw [h.paths .onward _ (List.cons_ne_nil _ _)]
    constructor
    · intro hexists
      obtain ⟨text, htext, hteaches⟩ := hexists
      obtain ⟨ids, stop, hspells, _, hnew⟩ := (Lexicon.teaches_iff_mem rfl).mp hteaches
      exact ⟨text, htext, ids.toList, hspells, mem_newPaths_onward_iff.mp hnew⟩
    · intro hexists
      obtain ⟨text, htext, ids, hspells, hrun⟩ := hexists
      obtain ⟨stop, hstop⟩ := @Lexicon.exists_stop _ ids.toArray _ hspells
      have hnew := (@mem_newPaths_onward_iff ids.toArray stop a b c).mpr hrun
      exact ⟨text, htext, (Lexicon.teaches_iff hspells hstop).mpr ⟨_, hnew, List.prefix_refl _⟩⟩
  backward a b c := by
    rw [h.paths .backward _ (List.cons_ne_nil _ _)]
    constructor
    · intro hexists
      obtain ⟨text, htext, hteaches⟩ := hexists
      obtain ⟨ids, stop, hspells, hstop, hnew⟩ := (Lexicon.teaches_iff_mem rfl).mp hteaches
      refine ⟨text, htext, ids.toList, hspells, ?_⟩
      rcases mem_newPaths_backward_iff.mp hnew with ⟨hrun, ha⟩ | ⟨hsize, hbeginning, rfl⟩
      · exact Or.inl ⟨hrun, fun hsymbol => ha (Lexicon.symbol?_injective hsymbol hstop)⟩
      · exact Or.inr ⟨hsize, hbeginning, hstop⟩
    · intro hexists
      obtain ⟨text, htext, ids, hspells, hcases⟩ := hexists
      obtain ⟨stop, hstop⟩ := @Lexicon.exists_stop _ ids.toArray _ hspells
      have hlong : 3 ≤ ids.length := by
        rcases hcases with ⟨hrun, _⟩ | ⟨hlong, _⟩
        · exact hrun.length_le
        · exact hlong
      have hnew : [a, b, c] ∈ Memory.newPaths order ids.toArray stop .backward := by
        rw [mem_newPaths_backward_iff]
        rcases hcases with ⟨hrun, ha⟩ | ⟨_, hbeginning, hc⟩
        · exact Or.inl ⟨hrun, fun hsame => ha (hsame ▸ hstop hlong)⟩
        · exact Or.inr ⟨hlong, hbeginning, Lexicon.symbol?_injective hc (hstop hlong)⟩
      exact ⟨text, htext, (Lexicon.teaches_iff hspells hstop).mpr ⟨_, hnew, List.prefix_refl _⟩⟩
  leaves direction path node hnode hleaf := by
    by_cases hnone : path = []
    · exact Or.inl hnone
    · have hpath : (brain.memory.trie direction).HasPath path := Option.isSome_of_eq_some hnode
      obtain ⟨more, hlength, hlonger⟩ := h.exists_longer hnone hpath
      obtain ⟨found, hfound, hmore⟩ := Trie.hasPath_append.mp hlonger
      obtain rfl : node = found := Option.some.inj (hnode.symm.trans hfound)
      have htop := Trie.node_id_children node
      rw [hleaf] at htop
      rw [← htop, ← Trie.leaf, Trie.hasPath_leaf] at hmore
      rw [hmore, List.append_nil] at hlength
      exact Or.inr hlength
  stops direction path id hpath hid := h.length_of_stop hpath hid
  sorted := h.sound.sorted

namespace Conversation

theorem knows_run (dice : Dice) (events : List Event) :
    ((Conversation.start .empty dice).run events).brain.Knows
      ((Conversation.start .empty dice).run events).learned :=
  run_induction (fun _ _ h => h.sound) Brain.knows_empty (fun _ _ _ h hkeeps => h.keeps hkeeps)
    (fun _ _ _ _ h hlearns => h.learns hlearns) events Brain.knows_empty

/-- Whatever happens in a conversation that starts from nothing, its brain holds just the paths of the texts
that were learned and not forgotten. -/
theorem run_holdsJust (dice : Dice) (events : List Event) :
    ((Conversation.start .empty dice).run events).brain.HoldsJust
      ((Conversation.start .empty dice).run events).learned :=
  (knows_run dice events).holdsJust

end Conversation

end Banter
