import Banter.Proofs.Brain.Filling
import Banter.Proofs.Brain.Vocabulary
import Banter.Proofs.Conversation.Learned
import Banter.Proofs.Trie.Counting

/-!
# Figures

The figures on a brain count what stands in the texts that it knows: the symbols, the runs of three symbols,
and the beginnings of these runs. The numbers that the symbols have do not matter, since the numbers on a path
spell one run and a run is spelled by one path.
-/

namespace Banter

def symbolsIn (texts : List String) : Finset Symbol :=
  (texts.flatMap symbolsOf).toFinset

def triplesIn (texts : List String) : Finset (List Symbol) :=
  (texts.flatMap fun text => (symbolsOf text).tails.map (List.take 3)).toFinset.filter (·.length = 3)

/-- The beginnings, of a given length, of the runs of three symbols in texts. -/
def openingsIn (texts : List String) (length : Nat) : Finset (List Symbol) :=
  (triplesIn texts).image (List.take length)

def Stats.ofTexts (texts : List String) : Stats :=
  let nodes := 1 + (openingsIn texts 1).card + (openingsIn texts 2).card + (triplesIn texts).card
  { symbols := (symbolsIn texts).card
    contexts := (openingsIn texts 2).card
    nodes := nodes
    bytes := 32 * nodes }

theorem mem_symbolsIn {texts : List String} {symbol : Symbol} :
    symbol ∈ symbolsIn texts ↔ ∃ text ∈ texts, symbol ∈ symbolsOf text := by
  simp [symbolsIn]

theorem mem_triplesIn {texts : List String} {run : List Symbol} :
    run ∈ triplesIn texts ↔ run.length = 3 ∧ ∃ text ∈ texts, run <:+: symbolsOf text := by
  rw [triplesIn, Finset.mem_filter, List.mem_toFinset, List.mem_flatMap, and_comm]
  apply and_congr_right
  intro hlength
  apply exists_congr
  intro text
  apply and_congr_right
  intro _
  rw [List.infix_iff_prefix_suffix, List.mem_map]
  apply exists_congr
  intro rest
  rw [List.mem_tails, List.prefix_iff_eq_take, hlength, and_comm, eq_comm]

theorem openingsIn_three (texts : List String) : openingsIn texts 3 = triplesIn texts := by
  have hwhole : ∀ run ∈ triplesIn texts, run.take 3 = id run := by
    intro run hrun
    exact List.take_of_length_le (mem_triplesIn.mp hrun).1.le
  rw [openingsIn, Finset.image_congr hwhole, Finset.image_id]

namespace Lexicon

/-- Numbers and symbols that spell each other are equally many. -/
theorem card_eq_of_spells {lexicon : Lexicon} {paths : Finset (List SymbolId)} {runs : Finset (List Symbol)}
    (hpaths : ∀ path ∈ paths, ∃ run ∈ runs, lexicon.Spells path run)
    (hruns : ∀ run ∈ runs, ∃ path ∈ paths, lexicon.Spells path run) : paths.card = runs.card := by
  have hsame : paths.image (List.map lexicon.symbol?) = runs.image (List.map some) := by
    ext symbols
    simp only [Finset.mem_image]
    constructor
    · intro hpath
      obtain ⟨path, hmem, rfl⟩ := hpath
      obtain ⟨run, hrun, hspells⟩ := hpaths path hmem
      exact ⟨run, hrun, hspells.symm⟩
    · intro hrun
      obtain ⟨run, hmem, rfl⟩ := hrun
      obtain ⟨path, hpath, hspells⟩ := hruns run hmem
      exact ⟨path, hpath, hspells⟩
  have hinjective : Set.InjOn (List.map lexicon.symbol?) paths := by
    intro path hpath other _ heq
    obtain ⟨run, _, hspells⟩ := hpaths path hpath
    exact hspells.unique (heq.symm.trans hspells)
  have hsome : Function.Injective (List.map (some : Symbol → Option Symbol)) :=
    List.map_injective_iff.mpr (Option.some_injective Symbol)
  rw [← Finset.card_image_of_injOn hinjective, hsame, Finset.card_image_of_injective runs hsome]

end Lexicon

namespace Brain

variable {brain : Brain} {learned : List String}

/-- A path spells the beginning of a run of three symbols. -/
theorem Knows.exists_opening (h : brain.Knows learned) {path : List SymbolId} (hsome : path ≠ [])
    (hpath : brain.memory.onward.HasPath path) :
    ∃ run ∈ openingsIn learned path.length, brain.lexicon.Spells path run := by
  have honward : (brain.memory.trie .onward).HasPath path := hpath
  obtain ⟨more, hlength, hlonger⟩ := h.exists_longer hsome honward
  obtain ⟨a, b, c, hwhole⟩ := List.length_eq_three.mp hlength
  rw [hwhole] at hlonger
  obtain ⟨text, htext, ids, hids, hwithin⟩ := (h.holdsJust.onward a b c).mp hlonger
  obtain ⟨triple, htriple, hspells⟩ := hids.exists_infix hwithin
  have hmem : triple ∈ triplesIn learned :=
    mem_triplesIn.mpr ⟨hspells.length_eq.symm, text, htext, htriple⟩
  refine ⟨triple.take path.length, Finset.mem_image_of_mem _ hmem, ?_⟩
  rw [← hwhole] at hspells
  simpa using hspells.take path.length

/-- The beginning of a run of three symbols is spelled by a path. -/
theorem Knows.exists_path (h : brain.Knows learned) {length : Nat} (hlength : length ≤ 3) {run : List Symbol}
    (hrun : run ∈ openingsIn learned length) :
    ∃ path, (path.length = length ∧ brain.memory.onward.HasPath path) ∧ brain.lexicon.Spells path run := by
  obtain ⟨triple, htriple, rfl⟩ := Finset.mem_image.mp hrun
  obtain ⟨hthree, text, htext, hwithin⟩ := mem_triplesIn.mp htriple
  obtain ⟨ids, hids⟩ := h.spelled text htext
  obtain ⟨path, hpath, hspells⟩ := hids.exists_run hwithin
  have hsize : path.length = 3 := hspells.length_eq.trans hthree
  have hfound : brain.memory.onward.HasPath path := by
    obtain ⟨a, b, c, rfl⟩ := List.length_eq_three.mp hsize
    exact (h.holdsJust.onward a b c).mpr ⟨text, htext, ids.toList, hids, hpath⟩
  refine ⟨path.take length, ⟨?_, hfound.of_prefix (List.take_prefix length path)⟩, hspells.take length⟩
  rw [List.length_take, hsize, Nat.min_eq_left hlength]

theorem Knows.sizeAt_onward (h : brain.Knows learned) {depth : Nat} (hpos : 0 < depth) (hdepth : depth ≤ 3) :
    brain.memory.onward.sizeAt depth = (openingsIn learned depth).card := by
  have hsorted : brain.memory.onward.isSorted = true := h.sound.sorted .onward
  rw [Trie.sizeAt_eq_card hsorted]
  apply Lexicon.card_eq_of_spells
  · intro path hmem
    obtain ⟨rfl, hpath⟩ := (Trie.mem_pathsAt hsorted).mp (List.mem_toFinset.mp hmem)
    exact h.exists_opening (List.ne_nil_of_length_pos hpos) hpath
  · intro run hrun
    obtain ⟨path, hpath, hspells⟩ := h.exists_path hdepth hrun
    exact ⟨path, List.mem_toFinset.mpr ((Trie.mem_pathsAt hsorted).mpr hpath), hspells⟩

theorem Knows.size_onward (h : brain.Knows learned) : brain.memory.onward.size =
    1 + (openingsIn learned 1).card + (openingsIn learned 2).card + (triplesIn learned).card := by
  have hsorted : brain.memory.onward.isSorted = true := h.sound.sorted .onward
  have hdeep : ∀ path, brain.memory.onward.HasPath path → path.length ≤ 3 := h.sound.shallow .onward
  rw [Trie.size_eq_sum hsorted hdeep, Finset.sum_range_succ, Finset.sum_range_succ,
    Finset.sum_range_succ, Finset.sum_range_one, Trie.sizeAt_zero, h.sizeAt_onward (by decide) (by decide),
    h.sizeAt_onward (by decide) (by decide), h.sizeAt_onward (by decide) (by decide), openingsIn_three]

structure KnowsJust (brain : Brain) (learned : List String) : Prop extends brain.Knows learned where
  holds : brain.lexicon.HoldsOnly (· ∈ symbolsIn learned)

theorem knowsJust_empty : empty.KnowsJust [] :=
  ⟨knows_empty, Lexicon.holdsOnly_empty⟩

theorem KnowsJust.size_lexicon (h : brain.KnowsJust learned) :
    brain.lexicon.size = (symbolsIn learned).card := by
  have hsame : brain.lexicon.symbols.toList.toFinset = symbolsIn learned := by
    ext symbol
    rw [List.mem_toFinset, Array.mem_toList_iff]
    constructor
    · intro hmem
      exact h.holds symbol hmem
    · intro hmem
      obtain ⟨text, htext, hsymbol⟩ := mem_symbolsIn.mp hmem
      obtain ⟨ids, hids⟩ := h.spelled text htext
      obtain ⟨id, _, hid⟩ := hids.exists_id hsymbol
      exact Lexicon.mem_symbols_iff.mpr ⟨id, hid⟩
  rw [Lexicon.size_eq_length, ← hsame, List.toFinset_card_of_nodup brain.lexicon.nodup_symbols]

/-- The figures on a brain are those on the texts that it knows. -/
theorem KnowsJust.stats_eq (h : brain.KnowsJust learned) : brain.stats = Stats.ofTexts learned := by
  have hcontexts : brain.memory.onward.sizeAt 2 = (openingsIn learned 2).card :=
    h.sizeAt_onward (by decide) (by decide)
  simp only [stats, Stats.ofTexts, Trie.bytes_eq, h.size_onward, h.size_lexicon, order, hcontexts]

theorem KnowsJust.learn (h : brain.KnowsJust learned) {text : String} {newer : Brain}
    (hlearn : brain.learn text = (.ok (), newer)) : newer.KnowsJust (learned ++ [text]) := by
  have hlisted := (brain.takesIn_learn text).listed
  rw [hlearn] at hlisted
  constructor
  · obtain ⟨other, ⟨hother, hlearns⟩ | ⟨hother, _⟩⟩ := brain.learn_cases text
    · obtain rfl := (Prod.mk.inj (hother.symm.trans hlearn)).2
      exact h.learns hlearns
    · exact absurd (hother.symm.trans hlearn) (by simp)
  · intro symbol hsymbol
    rw [← Array.mem_toList_iff, hlisted rfl, List.mem_append] at hsymbol
    rw [mem_symbolsIn]
    rcases hsymbol with hold | hnew
    · obtain ⟨known, hknown, hmem⟩ := mem_symbolsIn.mp (h.holds symbol (Array.mem_toList_iff.mp hold))
      exact ⟨known, List.mem_append_left _ hknown, hmem⟩
    · exact ⟨text, List.mem_concat_self, Lexicon.mem_of_mem_missing hnew⟩

theorem KnowsJust.reply (h : brain.KnowsJust learned) {text : String} {dice later : Dice} {reply : Reply}
    {newer : Brain} (hreply : brain.reply text dice = (.ok reply, newer, later)) :
    newer.KnowsJust (learned ++ [text]) := by
  have hheed : brain.heed text dice = (.ok (), newer) := by
    rw [heed, hreply]
    rfl
  rw [h.heed_eq_learn] at hheed
  exact h.learn hheed

theorem KnowsJust.learnLines (h : brain.KnowsJust learned) {lines : List (List UInt8)} {count total : Nat}
    {newer : Brain} (hlines : brain.learnLines count lines = (.ok total, newer)) :
    newer.KnowsJust (learned ++ lines.filterMap Text.ofUtf8?) := by
  induction lines generalizing count brain learned with
  | nil =>
    obtain ⟨_, rfl⟩ := Prod.mk.inj hlines
    simpa using h
  | cons line lines ih =>
    rw [Brain.learnLines] at hlines
    cases hline : Text.ofUtf8? line with
    | none => simp [hline] at hlines
    | some text =>
      rw [hline] at hlines
      cases hlearn : brain.learn text with
      | mk result next =>
        simp only [hlearn] at hlines
        cases result with
        | ok _ => simpa [hline] using ih (h.learn hlearn) hlines
        | error fault => simp at hlines

end Brain

end Banter
