import Mathlib.Data.List.Basic
import Mathlib.Data.List.Induction
import Banter.Text.Lines

/-!
# Where lines end

Bytes fall into lines that a line feed ends, and what follows the last line feed. The lines that are read
are these, each ended one without a carriage return at its end, and the last only if it is not empty. Main
statement: behind a line feed, what is read does not depend on what stood before it.
-/

namespace Banter.Text

/-- A line without a carriage return at its end. -/
def withoutReturn (line : List UInt8) : List UInt8 :=
  if line.getLast? = some carriageReturn then line.dropLast else line

def endedLines (lines : List (List UInt8)) : List UInt8 :=
  lines.flatMap (· ++ [lineFeed])

/-- Bytes fall into lines: a line feed ends all but the last and is in none of them. -/
def FallsIntoLines (content : List UInt8) (lines : List (List UInt8)) : Prop :=
  ∃ ended last, content = endedLines ended ++ last ∧ (∀ line ∈ ended, lineFeed ∉ line) ∧
    lineFeed ∉ last ∧ lines = ended.map withoutReturn ++ if last = [] then [] else [last]

theorem finishedLine_reverse (line : List UInt8) : finishedLine line.reverse = withoutReturn line := by
  induction line using List.reverseRecOn with
  | nil => rfl
  | append_singleton line byte =>
    rw [List.reverse_append, List.reverse_singleton, List.singleton_append, finishedLine, withoutReturn]
    by_cases h : byte = carriageReturn <;> simp [h]

theorem linesOnto_append {line : List UInt8} (h : lineFeed ∉ line) (done : List (List UInt8))
    (seen rest : List UInt8) :
    linesOnto done seen (line ++ rest) = linesOnto done (line.reverse ++ seen) rest := by
  induction line generalizing seen with
  | nil => rfl
  | cons byte line ih =>
    obtain ⟨hbyte, hline⟩ := List.ne_and_not_mem_of_not_mem_cons h
    rw [List.cons_append, linesOnto, if_neg (Ne.symm hbyte), ih hline]
    simp

theorem linesOf_ended {line : List UInt8} (h : lineFeed ∉ line) (rest : List UInt8) :
    linesOf (line ++ lineFeed :: rest) = withoutReturn line :: linesOf rest := by
  rw [linesOf, linesOnto_append h, linesOnto, if_pos rfl, linesOnto_eq_append, List.append_nil,
    finishedLine_reverse]
  rfl

theorem linesOf_of_notMem {last : List UInt8} (h : lineFeed ∉ last) :
    linesOf last = if last = [] then [] else [last] := by
  have hlines := linesOnto_append h [] [] []
  rw [List.append_nil] at hlines
  rw [linesOf, hlines, linesOnto]
  simp

theorem linesOf_endedLines {lines : List (List UInt8)} (h : ∀ line ∈ lines, lineFeed ∉ line)
    (rest : List UInt8) :
    linesOf (endedLines lines ++ rest) = lines.map withoutReturn ++ linesOf rest := by
  induction lines with
  | nil => rfl
  | cons line lines ih =>
    obtain ⟨hline, hlines⟩ := List.forall_mem_cons.mp h
    have hcontent : endedLines (line :: lines) ++ rest =
        line ++ lineFeed :: (endedLines lines ++ rest) := by
      simp [endedLines]
    rw [hcontent, linesOf_ended hline, ih hlines]
    rfl

theorem exists_endedLines (content : List UInt8) : ∃ ended last,
    content = endedLines ended ++ last ∧ (∀ line ∈ ended, lineFeed ∉ line) ∧ lineFeed ∉ last := by
  induction content using List.reverseRecOn with
  | nil => exact ⟨[], [], rfl, by simp, by simp⟩
  | append_singleton content byte ih =>
    obtain ⟨ended, last, rfl, hended, hlast⟩ := ih
    by_cases hbyte : byte = lineFeed
    · refine ⟨ended ++ [last], [], by simp [endedLines, hbyte], ?_, by simp⟩
      intro line hline
      rcases List.mem_append.mp hline with hold | hnew
      · exact hended line hold
      · rwa [List.mem_singleton.mp hnew]
    · exact ⟨ended, last ++ [byte], by simp, hended, by simp [hlast, Ne.symm hbyte]⟩

/-- The lines that are read are those that the bytes fall into. -/
theorem fallsIntoLines_iff {content : List UInt8} {lines : List (List UInt8)} :
    FallsIntoLines content lines ↔ linesOf content = lines := by
  have hread {ended : List (List UInt8)} {last : List UInt8} (hended : ∀ line ∈ ended, lineFeed ∉ line)
      (hlast : lineFeed ∉ last) : linesOf (endedLines ended ++ last) =
        ended.map withoutReturn ++ if last = [] then [] else [last] := by
    rw [linesOf_endedLines hended, linesOf_of_notMem hlast]
  constructor
  · rintro ⟨ended, last, rfl, hended, hlast, rfl⟩
    exact hread hended hlast
  · rintro rfl
    obtain ⟨ended, last, rfl, hended, hlast⟩ := exists_endedLines content
    exact ⟨ended, last, rfl, hended, hlast, hread hended hlast⟩

/-- Bytes that are empty or end in a line feed are whole lines. -/
theorem exists_endedLines_of_ends {front : List UInt8} (h : front = [] ∨ front.getLast? = some lineFeed) :
    ∃ ended, front = endedLines ended ∧ ∀ line ∈ ended, lineFeed ∉ line := by
  obtain ⟨ended, last, rfl, hended, hlast⟩ := exists_endedLines front
  obtain rfl : last = [] := by
    by_contra hne
    rcases h with hempty | hends
    · exact hne (List.append_eq_nil_iff.mp hempty).2
    · rw [List.getLast?_append_of_ne_nil _ hne] at hends
      exact hlast (List.mem_of_getLast? hends)
  exact ⟨ended, List.append_nil _, hended⟩

theorem linesOf_append {front : List UInt8} (h : front = [] ∨ front.getLast? = some lineFeed)
    (back : List UInt8) : linesOf (front ++ back) = linesOf front ++ linesOf back := by
  obtain ⟨ended, rfl, hended⟩ := exists_endedLines_of_ends h
  have hfront := linesOf_endedLines hended []
  rw [List.append_nil] at hfront
  rw [linesOf_endedLines hended, hfront, show linesOf [] = [] from rfl, List.append_nil]

end Banter.Text
