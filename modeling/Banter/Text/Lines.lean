import Banter.Text.Utf8

/-!
# Lines

Bytes are cut into lines at each line feed. A carriage return directly before a line feed belongs to the
end of the line. What follows the last line feed is a line unless it is empty.
-/

namespace Banter.Text

def lineFeed : UInt8 := 10

/-- The byte that may stand before the end of a line. -/
def carriageReturn : UInt8 := 13

/-- A line, given reversed, without a carriage return at its end. -/
def finishedLine : List UInt8 → List UInt8
  | [] => []
  | byte :: line => if byte = carriageReturn then line.reverse else (byte :: line).reverse

/-- Adds the lines of bytes to `done`, which is reversed, where `line` is the reversed start of the
first of them. -/
def linesOnto (done : List (List UInt8)) (line : List UInt8) : List UInt8 → List (List UInt8)
  | [] => if line.isEmpty then done.reverse else (line.reverse :: done).reverse
  | byte :: rest =>
    if byte = lineFeed then
      linesOnto (finishedLine line :: done) [] rest
    else
      linesOnto done (byte :: line) rest

def linesOf (bytes : List UInt8) : List (List UInt8) :=
  linesOnto [] [] bytes

theorem linesOnto_eq_append (done : List (List UInt8)) (line bytes : List UInt8) :
    linesOnto done line bytes = done.reverse ++ linesOnto [] line bytes := by
  induction bytes generalizing done line with
  | nil => by_cases h : line.isEmpty <;> simp [linesOnto, h]
  | cons byte rest ih =>
    by_cases h : byte = lineFeed
    · rw [linesOnto, if_pos h, ih, linesOnto, if_pos h, ih [_]]
      simp
    · rw [linesOnto, if_neg h, ih, linesOnto, if_neg h]

end Banter.Text
