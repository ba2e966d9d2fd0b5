/-!
# Blank characters

The characters with the Unicode property White_Space, and the trimming of a text.
-/

namespace Banter.Text

/-- Whether a code point is blank: the controls from tab to carriage return, the space, the next line,
and the spaces and separators beyond ASCII. -/
def isBlankPoint (point : Nat) : Bool :=
  (0x09 ≤ point && point ≤ 0x0D) || point == 0x20 || point == 0x85 || point == 0xA0 ||
    point == 0x1680 || (0x2000 ≤ point && point ≤ 0x200A) || point == 0x2028 || point == 0x2029 ||
    point == 0x202F || point == 0x205F || point == 0x3000

def isBlank (c : Char) : Bool :=
  isBlankPoint c.toNat

def trimStart (cs : List Char) : List Char :=
  cs.dropWhile isBlank

def trimChars (cs : List Char) : List Char :=
  (trimStart (trimStart cs).reverse).reverse

def trim (text : String) : String :=
  String.ofList (trimChars text.toList)

end Banter.Text
