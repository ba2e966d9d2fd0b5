import Banter.Memory
import Mathlib.Data.List.Infix
import Mathlib.Data.List.TakeDrop

namespace Banter.Memory

variable {length : Nat} {ids : Array SymbolId} {run : List SymbolId}

/-- The numbers of a sequence from one position to another, both of them included. -/
def span (ids : Array SymbolId) (first last : Nat) : List SymbolId :=
  (ids.toList.take (last + 1)).drop first

theorem toList_extract_eq_span (ids : Array SymbolId) (first last : Nat) :
    (ids.extract first (last + 1)).toList = span ids first last := by
  rw [Array.toList_extract, List.extract_eq_drop_take', span]

theorem span_self {i : Nat} (h : i < ids.size) : span ids i i = [ids[i]] := by
  have hlength : i < ids.toList.length := h
  rw [span, List.take_succ_eq_append_getElem hlength, List.drop_append_of_le_length (by simp [Nat.le_of_lt h])]
  simp

theorem length_span {first last : Nat} (hlast : last < ids.size) :
    (span ids first last).length = last + 1 - first := by
  rw [span, List.length_drop, List.length_take, Array.length_toList, Nat.min_eq_left hlast]

theorem span_isInfix (ids : Array SymbolId) (first last : Nat) : span ids first last <:+: ids.toList :=
  (List.drop_suffix _ _).isInfix.trans (List.take_prefix _ _).isInfix

/-- The last number of a span comes first when the span is reversed. -/
theorem head?_reverse_span {first last : Nat} (hfirst : first ≤ last) (hlast : last < ids.size) :
    (span ids first last).reverse.head? = ids[last]? := by
  have hsome : ¬(ids.toList.take (last + 1)).length ≤ first := by
    rw [List.length_take, Array.length_toList]
    omega
  rw [List.head?_reverse, span, List.getLast?_drop, if_neg hsome, List.getLast?_take,
    if_neg (Nat.succ_ne_zero last), Nat.add_sub_cancel, Array.getElem?_toList,
    Array.getElem?_eq_getElem hlast, Option.some_or]

theorem runs_eq_map_span (length : Nat) (ids : Array SymbolId) :
    runs (length + 1) ids = (List.range (ids.size - length)).map fun i => span ids i (i + length) := by
  simp only [runs, ← toList_extract_eq_span, Nat.add_assoc, Nat.add_sub_add_right]

theorem mem_runs_iff_span :
    run ∈ runs (length + 1) ids ↔ ∃ i, i + length < ids.size ∧ run = span ids i (i + length) := by
  simp only [runs_eq_map_span, List.mem_map, List.mem_range, Nat.lt_sub_iff_add_lt,
    @eq_comm _ run]

/-- A run of some length stands somewhere in a sequence. -/
theorem isInfix_iff_span :
    (run.length = length + 1 ∧ run <:+: ids.toList) ↔
      ∃ i, i + length < ids.size ∧ run = span ids i (i + length) := by
  constructor
  · intro hboth
    obtain ⟨hlength, front, back, happend⟩ := hboth
    have hsize := congrArg List.length happend
    simp only [List.length_append, Array.length_toList] at hsize
    refine ⟨front.length, by omega, ?_⟩
    have hwhole : front.length + length + 1 = (front ++ run).length := by
      rw [List.length_append, hlength, Nat.add_assoc]
    rw [span, hwhole, ← happend, List.take_left, List.drop_left]
  · intro hexists
    obtain ⟨i, hi, rfl⟩ := hexists
    refine ⟨?_, span_isInfix ids i _⟩
    rw [length_span hi]
    omega

theorem mem_runs : run ∈ runs (length + 1) ids ↔ run.length = length + 1 ∧ run <:+: ids.toList := by
  rw [mem_runs_iff_span, isInfix_iff_span]

/-- A search through the runs of a length finds the leftmost that passes. -/
theorem find?_runs_eq_some {test : List SymbolId → Bool} (h : (runs (length + 1) ids).find? test = some run) :
    ∃ i, i + length < ids.size ∧ run = span ids i (i + length) ∧ test run = true ∧
      ∀ j < i, test (span ids j (j + length)) = false := by
  rw [runs_eq_map_span, List.find?_map, Option.map_eq_some_iff] at h
  obtain ⟨i, hfound, rfl⟩ := h
  obtain ⟨htest, hi, hfirst⟩ := List.find?_range_eq_some.mp hfound
  refine ⟨i, Nat.add_lt_of_lt_sub (List.mem_range.mp hi), rfl, htest, ?_⟩
  intro j hj
  simpa using hfirst j hj

theorem find?_runs_eq_none {test : List SymbolId → Bool} (h : (runs (length + 1) ids).find? test = none) {i : Nat}
    (hi : i + length < ids.size) : test (span ids i (i + length)) = false := by
  have hfails := List.find?_eq_none.mp h _ (mem_runs_iff_span.mpr ⟨i, hi, rfl⟩)
  simpa using hfails

end Banter.Memory
