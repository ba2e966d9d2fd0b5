import Banter.Text.CaseTable

/-!
# Upper and lower case

The full case mappings of Unicode, which may turn one character into several. Lower case depends on the
surroundings for one letter alone: a capital sigma that ends a word becomes a final sigma.
-/

namespace Banter.Text

/-- The characters of a code point that may have a longer upper case, if it has one. -/
def upperExpansion? (point : Nat) : Option (List Nat) :=
  let started := Bisect.count (fun i => upperExpansions[i]?.any (·.1 ≤ point)) upperExpansions.size
  (upperExpansions[started - 1]?).bind fun entry =>
    if entry.1 = point then some entry.2 else none

def upperChar (c : Char) : List Char :=
  if c.toNat < 0x80 then
    [c.toUpper]
  else
    match upperExpansion? c.toNat with
    | some points => points.map Char.ofNat
    | none => [Char.ofNat (upperTable.image c.toNat)]

def upperChars (cs : List Char) : List Char :=
  cs.flatMap upperChar

/-- The lower case of a character away from any other. -/
def lowerChar (c : Char) : List Char :=
  if c.toNat < 0x80 then
    [c.toLower]
  else if c.toNat = 0x130 then
    [Char.ofNat 0x69, Char.ofNat 0x307]
  else
    [Char.ofNat (lowerTable.image c.toNat)]

/-- Whether the first character that is not ignored for case has case. -/
def meetsCased (cs : List Char) : Bool :=
  (cs.dropWhile caseIgnorableChars.contains).head?.any casedChars.contains

/-- The lower case of a character between the characters before it, nearest first, and those after it.
A capital sigma after a cased character and before none is final. -/
def lowerBetween (before : List Char) (c : Char) (after : List Char) : List Char :=
  if c = 'Σ' then
    [if meetsCased before && !meetsCased after then 'ς' else 'σ']
  else
    lowerChar c

/-- Adds the lower case of the characters that follow `before` to `done`, which is reversed. -/
def lowerOnto (done before : List Char) : List Char → List Char
  | [] => done.reverse
  | c :: after =>
    lowerOnto ((lowerBetween before c after).reverse ++ done) (c :: before) after

def lowerChars (cs : List Char) : List Char :=
  lowerOnto [] [] cs

def upper (text : String) : String :=
  String.ofList (upperChars text.toList)

def lower (text : String) : String :=
  String.ofList (lowerChars text.toList)

def capitalize (text : String) : String :=
  match text.toList with
  | [] => ""
  | c :: rest => String.ofList (upperChar c ++ rest)

theorem lowerOnto_eq_append (done before cs : List Char) :
    lowerOnto done before cs = done.reverse ++ lowerOnto [] before cs := by
  induction cs generalizing done before with
  | nil => simp [lowerOnto]
  | cons c after ih =>
    rw [lowerOnto, ih, lowerOnto, ih (_ ++ [])]
    simp

end Banter.Text
