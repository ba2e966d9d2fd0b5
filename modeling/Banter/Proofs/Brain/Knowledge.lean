import Banter.Proofs.Brain.Soundness
import Banter.Proofs.Reading.Stops

/-!
# What a brain knows

A brain that knows texts has their symbols in its lexicon, and in each trie the paths that the texts teach
and no others. Learning a text adds it to what is known, and nothing that only makes the lexicon grow takes
from it or adds to it.
-/

namespace Banter

namespace Lexicon

/-- The numbers of a text give a path, or a path that this one leads to. -/
def Teaches (lexicon : Lexicon) (text : String) (direction : Direction) (path : List SymbolId) : Prop :=
  ∃ ids stop, lexicon.Spells ids.toList (symbolsOf text) ∧ lexicon.symbol? stop = some .stop ∧
    ∃ new ∈ Memory.newPaths Brain.order ids stop direction, path <+: new

theorem eq_nil_of_spells_stop {lexicon : Lexicon} {front back : List SymbolId} {id : SymbolId}
    {text : String} (h : lexicon.Spells (front ++ id :: back) (symbolsOf text))
    (hid : lexicon.symbol? id = some .stop) : back = [] := by
  obtain ⟨before, rest, hsymbols, _, hrest⟩ := spells_append_left.mp h
  cases rest with
  | nil => exact absurd hrest.length_eq (by simp)
  | cons symbol after =>
    obtain ⟨hsymbol, hafter⟩ := spells_cons.mp hrest
    rw [hid, Option.some.injEq] at hsymbol
    rw [← hsymbol] at hsymbols
    have hlength := hafter.length_eq
    rw [eq_nil_of_symbolsOf hsymbols] at hlength
    exact List.length_eq_zero_iff.mp hlength

/-- The stop is the last of any run of a text's numbers that it is in. -/
theorem eq_nil_of_run_stop {lexicon : Lexicon} {ids front back : List SymbolId} {id : SymbolId}
    {text : String} (h : lexicon.Spells ids (symbolsOf text)) (hrun : front ++ id :: back <:+: ids)
    (hid : lexicon.symbol? id = some .stop) : back = [] := by
  obtain ⟨before, after, rfl⟩ := hrun
  have hsplit : before ++ (front ++ id :: back) ++ after = (before ++ front) ++ id :: (back ++ after) := by
    simp only [List.append_assoc, List.cons_append]
  rw [hsplit] at h
  exact (List.append_eq_nil_iff.mp (eq_nil_of_spells_stop h hid)).1

theorem symbol?_ne_stop_of_mem_take {lexicon : Lexicon} {ids : List SymbolId} {id : SymbolId}
    {text : String} {n : Nat} (h : lexicon.Spells ids (symbolsOf text)) (hn : n < ids.length)
    (hmem : id ∈ ids.take n) : lexicon.symbol? id ≠ some .stop := by
  intro hid
  obtain ⟨front, back, hsplit⟩ := List.append_of_mem hmem
  have hids := List.take_append_drop n ids
  rw [hsplit, List.append_assoc, List.cons_append] at hids
  rw [← hids] at h
  have hrest := (List.append_eq_nil_iff.mp (eq_nil_of_spells_stop h hid)).2
  rw [List.drop_eq_nil_iff] at hrest
  exact Nat.not_lt.mpr hrest hn

/-- The stop has a number wherever a text that teaches anything is spelled. -/
theorem exists_stop {lexicon : Lexicon} {ids : Array SymbolId} {text : String}
    (h : lexicon.Spells ids.toList (symbolsOf text)) :
    ∃ stop, Brain.order < ids.size → lexicon.symbol? stop = some .stop := by
  by_cases hsize : Brain.order < ids.size
  · rcases symbolsOf_cases text with hnone | ⟨front, hfront, _⟩
    · have hlength := h.length_eq
      rw [hnone, Array.length_toList, List.length_nil] at hlength
      rw [hlength] at hsize
      exact absurd hsize (Nat.not_lt_zero _)
    · rw [hfront] at h
      obtain ⟨_, last, _, _, hlast⟩ := spells_append_right.mp h
      match last, hlast with
      | stop :: _, hlast => exact ⟨stop, fun _ => (spells_cons.mp hlast).1⟩
  · exact ⟨0, fun h => absurd h hsize⟩

/-- What a text teaches is decided by any spelling of it. -/
theorem teaches_iff {lexicon : Lexicon} {ids : Array SymbolId} {stop : SymbolId} {text : String}
    (hspells : lexicon.Spells ids.toList (symbolsOf text))
    (hstop : Brain.order < ids.size → lexicon.symbol? stop = some .stop) {direction : Direction}
    {path : List SymbolId} : lexicon.Teaches text direction path ↔
      ∃ new ∈ Memory.newPaths Brain.order ids stop direction, path <+: new := by
  constructor
  · intro hexists
    obtain ⟨others, other, hothers, hother, new, hnew, hleads⟩ := hexists
    obtain rfl : others = ids := Array.toList_inj.mp (hothers.unique hspells)
    obtain rfl := symbol?_injective hother (hstop (Memory.size_of_mem_newPaths hnew))
    exact ⟨new, hnew, hleads⟩
  · intro hexists
    obtain ⟨new, hnew, hleads⟩ := hexists
    exact ⟨ids, stop, hspells, hstop (Memory.size_of_mem_newPaths hnew), new, hnew, hleads⟩

theorem teaches_iff_of_growsTo {older newer : Lexicon} {ids : Array SymbolId} {text : String}
    (h : older.GrowsTo newer) (hspells : older.Spells ids.toList (symbolsOf text)) {direction : Direction}
    {path : List SymbolId} : newer.Teaches text direction path ↔ older.Teaches text direction path := by
  obtain ⟨stop, hstop⟩ := exists_stop hspells
  rw [teaches_iff hspells hstop,
    teaches_iff (hspells.of_growsTo h) fun hsize => h.symbol? (hstop hsize)]

/-- A path that is taught goes on to the full length. -/
theorem Teaches.exists_longer {lexicon : Lexicon} {text : String} {direction : Direction}
    {path : List SymbolId} (h : lexicon.Teaches text direction path) :
    ∃ more, (path ++ more).length = Brain.order + 1 ∧ lexicon.Teaches text direction (path ++ more) := by
  obtain ⟨ids, stop, hspells, hstop, _, hnew, more, rfl⟩ := h
  exact ⟨more, Memory.length_of_mem_newPaths hnew, ids, stop, hspells, hstop, _, hnew, List.prefix_refl _⟩

/-- A path of full length is taught by just the texts that it is a new path of. -/
theorem teaches_iff_mem {lexicon : Lexicon} {text : String} {direction : Direction}
    {path : List SymbolId} (hlength : path.length = Brain.order + 1) :
    lexicon.Teaches text direction path ↔ ∃ ids stop, lexicon.Spells ids.toList (symbolsOf text) ∧
      lexicon.symbol? stop = some .stop ∧ path ∈ Memory.newPaths Brain.order ids stop direction := by
  constructor
  · intro hexists
    obtain ⟨ids, stop, hspells, hstop, new, hnew, hleads⟩ := hexists
    rw [hleads.eq_of_length (hlength.trans (Memory.length_of_mem_newPaths hnew).symm)]
    exact ⟨ids, stop, hspells, hstop, hnew⟩
  · intro hexists
    obtain ⟨ids, stop, hspells, hstop, hpath⟩ := hexists
    exact ⟨ids, stop, hspells, hstop, path, hpath, List.prefix_refl path⟩

/-- The stop is taught at the end of paths only. -/
theorem Teaches.length_of_stop {lexicon : Lexicon} {text : String} {direction : Direction}
    {path : List SymbolId} {id : SymbolId} (h : lexicon.Teaches text direction (path ++ [id]))
    (hid : lexicon.symbol? id = some .stop) : path.length = Brain.order := by
  obtain ⟨ids, stop, hspells, hstop, new, hnew, more, hmore⟩ := h
  have hlength := Memory.length_of_mem_newPaths hnew
  have hend (hnone : more = []) : path.length = Brain.order := by
    rw [← hmore, hnone, List.append_nil, List.length_append] at hlength
    exact Nat.succ.inj hlength
  rw [List.append_assoc, List.singleton_append] at hmore
  cases direction with
  | onward =>
    have hrun := (Memory.mem_newPaths_onward.mp hnew).2
    rw [← hmore] at hrun
    exact hend (eq_nil_of_run_stop hspells hrun hid)
  | backward =>
    rcases Memory.mem_newPaths_backward.mp hnew with ⟨_, hsize, hopening⟩ | ⟨_, hrun, hhead⟩
    · by_cases hnone : more = []
      · exact hend hnone
      · -- Before the end of the opening stand the first numbers of the text, which are not its last.
        rw [← hmore, ← List.dropLast_concat_getLast hnone, ← List.cons_append, ← List.append_assoc] at hopening
        have hfront := List.append_inj_left' hopening rfl
        have hmem : id ∈ (ids.toList.take Brain.order).reverse := by
          rw [← hfront]
          exact List.mem_append_right path List.mem_cons_self
        exact absurd hid (symbol?_ne_stop_of_mem_take hspells hsize (List.mem_reverse.mp hmem))
    · -- A run that ends in the stop is left out.
      rw [← hmore, List.reverse_append, List.reverse_cons, List.append_assoc, List.singleton_append] at hrun
      have hpath := List.reverse_eq_nil_iff.mp (eq_nil_of_run_stop hspells hrun hid)
      rw [← hmore, hpath] at hhead
      exact absurd (congrArg some (symbol?_injective hid hstop)) hhead

/-- Numbers that stand one after another in a text that is long enough to teach anything. -/
def IsRun (lexicon : Lexicon) (text : String) (run : List SymbolId) : Prop :=
  ∃ ids, lexicon.Spells ids (symbolsOf text) ∧ Brain.order < ids.length ∧ run <:+: ids

theorem Teaches.isRun_onward {lexicon : Lexicon} {text : String} {path : List SymbolId}
    (h : lexicon.Teaches text .onward path) : lexicon.IsRun text path := by
  obtain ⟨ids, _, hspells, _, _, hnew, hleads⟩ := h
  exact ⟨ids.toList, hspells, Memory.size_of_mem_newPaths hnew,
    hleads.isInfix.trans (Memory.mem_newPaths_onward.mp hnew).2⟩

theorem Teaches.isRun_backward {lexicon : Lexicon} {text : String} {path : List SymbolId} {id : SymbolId}
    (h : lexicon.Teaches text .backward (path ++ [id])) (hid : lexicon.symbol? id ≠ some .stop) :
    lexicon.IsRun text (id :: path.reverse) := by
  obtain ⟨ids, stop, hspells, hstop, new, hnew, hleads⟩ := h
  have hreverse : (path ++ [id]).reverse = id :: path.reverse := List.reverse_concat
  refine ⟨ids.toList, hspells, Memory.size_of_mem_newPaths hnew, ?_⟩
  rw [← hreverse]
  rcases Memory.mem_newPaths_backward.mp hnew with ⟨_, _, rfl⟩ | ⟨_, hwithin, _⟩
  · rcases List.prefix_concat_iff.mp hleads with hwhole | hfront
    · obtain rfl := List.singleton_inj.mp (List.append_inj' hwhole rfl).2
      exact absurd hstop hid
    · have hsuffix := List.reverse_suffix.mpr hfront
      rw [List.reverse_reverse] at hsuffix
      exact hsuffix.isInfix.trans (List.take_prefix _ _).isInfix
  · exact (List.reverse_suffix.mpr hleads).isInfix.trans hwithin

end Lexicon

namespace Brain

/-- A sound brain knows texts: it spells them, and its paths are those that they teach. -/
structure Knows (brain : Brain) (learned : List String) : Prop where
  sound : brain.IsSound
  spelled : ∀ text ∈ learned, ∃ ids : Array SymbolId, brain.lexicon.Spells ids.toList (symbolsOf text)
  paths : ∀ direction path, path ≠ [] → ((brain.memory.trie direction).HasPath path ↔
    ∃ text ∈ learned, brain.lexicon.Teaches text direction path)

theorem knows_empty : Knows empty [] where
  sound := isSound_empty
  spelled := by simp
  paths direction path hpath := by
    rw [trie_empty, Trie.hasPath_leaf]
    simp [hpath]

private theorem exists_teaches_iff_of_growsTo {older newer : Lexicon} {learned : List String}
    (h : older.GrowsTo newer)
    (hspelled : ∀ text ∈ learned, ∃ ids : Array SymbolId, older.Spells ids.toList (symbolsOf text))
    {direction : Direction} {path : List SymbolId} :
    (∃ text ∈ learned, newer.Teaches text direction path) ↔
      ∃ text ∈ learned, older.Teaches text direction path := by
  constructor
  · intro hexists
    obtain ⟨text, htext, hteaches⟩ := hexists
    obtain ⟨ids, hids⟩ := hspelled text htext
    exact ⟨text, htext, (Lexicon.teaches_iff_of_growsTo h hids).mp hteaches⟩
  · intro hexists
    obtain ⟨text, htext, hteaches⟩ := hexists
    obtain ⟨ids, hids⟩ := hspelled text htext
    exact ⟨text, htext, (Lexicon.teaches_iff_of_growsTo h hids).mpr hteaches⟩

theorem Knows.keeps {older newer : Brain} {learned : List String} (h : older.Knows learned)
    (hkeeps : older.Keeps newer) : newer.Knows learned := by
  refine ⟨h.sound.keeps hkeeps, ?_, ?_⟩
  · intro text htext
    obtain ⟨ids, hids⟩ := h.spelled text htext
    exact ⟨ids, hids.of_growsTo hkeeps.1⟩
  · intro direction path hpath
    rw [hkeeps.2, h.paths direction path hpath, exists_teaches_iff_of_growsTo hkeeps.1 h.spelled]

theorem Knows.learns {older newer : Brain} {text : String} {learned : List String}
    (h : older.Knows learned) (hlearns : older.Learns text newer) : newer.Knows (learned ++ [text]) := by
  have hsound := h.sound.learns hlearns
  obtain ⟨hgrows, ids, stop, hspells, hstop, hmemory⟩ := hlearns
  refine ⟨hsound, ?_, ?_⟩
  · intro known hknown
    rcases List.mem_append.mp hknown with hknown | hknown
    · obtain ⟨others, hothers⟩ := h.spelled known hknown
      exact ⟨others, hothers.of_growsTo hgrows⟩
    · rw [List.mem_singleton.mp hknown]
      exact ⟨ids, hspells⟩
  · intro direction path hpath
    rw [hmemory, Memory.hasPath_learn (h.sound.sorted direction), h.paths direction path hpath,
      ← exists_teaches_iff_of_growsTo hgrows h.spelled, ← Lexicon.teaches_iff hspells hstop]
    simp only [List.mem_append, List.mem_singleton, or_and_right, exists_or, exists_eq_left]

/-- A path goes on to the full length. -/
theorem Knows.exists_longer {brain : Brain} {learned : List String} (h : brain.Knows learned)
    {direction : Direction} {path : List SymbolId} (hsome : path ≠ [])
    (hpath : (brain.memory.trie direction).HasPath path) :
    ∃ more, (path ++ more).length = order + 1 ∧ (brain.memory.trie direction).HasPath (path ++ more) := by
  obtain ⟨text, htext, hteaches⟩ := (h.paths direction path hsome).mp hpath
  obtain ⟨more, hlength, hlonger⟩ := hteaches.exists_longer
  have hlongerSome : path ++ more ≠ [] := List.append_ne_nil_of_left_ne_nil hsome more
  exact ⟨more, hlength, (h.paths direction _ hlongerSome).mpr ⟨text, htext, hlonger⟩⟩

/-- The stop has a number once a text with characters is known. -/
theorem Knows.exists_stop {brain : Brain} {learned : List String} (h : brain.Knows learned) {text : String}
    (htext : text ∈ learned) (hsome : text ≠ "") : ∃ stop, brain.lexicon.symbol? stop = some .stop := by
  obtain ⟨ids, hids⟩ := h.spelled text htext
  obtain ⟨stop, _, hstop⟩ := hids.exists_id (stop_mem_symbolsOf hsome)
  exact ⟨stop, hstop⟩

theorem Knows.exists_stop_of_children {brain : Brain} {learned : List String} (h : brain.Knows learned)
    (hsome : brain.memory.onward.children ≠ #[]) : ∃ stop, brain.lexicon.symbol? stop = some .stop := by
  obtain ⟨id, hpath⟩ := Trie.exists_hasPath (h.sound.sorted .onward) hsome
  obtain ⟨_, _, _, stop, _, hstop, _⟩ := (h.paths .onward [id] (List.cons_ne_nil _ _)).mp hpath
  exact ⟨stop, hstop⟩

/-- The stop stands at the end of paths only. -/
theorem Knows.length_of_stop {brain : Brain} {learned : List String} (h : brain.Knows learned)
    {direction : Direction} {path : List SymbolId} {id : SymbolId}
    (hpath : (brain.memory.trie direction).HasPath (path ++ [id]))
    (hid : brain.lexicon.symbol? id = some .stop) : path.length = order := by
  obtain ⟨_, _, hteaches⟩ := (h.paths direction (path ++ [id]) (List.concat_ne_nil id path)).mp hpath
  exact hteaches.length_of_stop hid

end Brain

end Banter
