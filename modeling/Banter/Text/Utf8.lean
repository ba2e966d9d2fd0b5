/-!
# UTF-8

The bytes of a text, the text of such bytes, and the cutting of a text by bytes. Main statement: a sequence of
bytes is read as a text exactly when it is the bytes of that text.
-/

namespace Banter.Text

def toUtf8 (text : String) : List UInt8 :=
  text.toByteArray.data.toList

def ofUtf8? (bytes : List UInt8) : Option String :=
  String.fromUTF8? bytes.toByteArray

/-- Splits characters after a number of bytes, unless that is within a character or past the end. -/
def splitBytes : List Char → (bytes : Nat) → Option (List Char × List Char)
  | cs, 0 => some ([], cs)
  | [], _ + 1 => none
  | c :: rest, bytes + 1 =>
    if c.utf8Size ≤ bytes + 1 then
      (splitBytes rest (bytes + 1 - c.utf8Size)).map fun (head, tail) => (c :: head, tail)
    else
      none

theorem toByteArray_toUtf8 (text : String) : (toUtf8 text).toByteArray = text.toByteArray := by
  apply ByteArray.ext
  apply Array.toList_inj.mp
  rw [List.toList_data_toByteArray, toUtf8]

theorem ofUtf8?_eq_some_iff {bytes : List UInt8} {text : String} :
    ofUtf8? bytes = some text ↔ bytes = toUtf8 text := by
  unfold ofUtf8? String.fromUTF8?
  constructor
  · intro h
    split at h
    next hvalid =>
      obtain rfl := Option.some.inj h
      simp [toUtf8, String.fromUTF8]
    next => exact absurd h (by simp)
  · rintro rfl
    have hvalid : (toUtf8 text).toByteArray.IsValidUTF8 := by
      rw [toByteArray_toUtf8]
      exact text.isValidUTF8
    rw [dif_pos hvalid]
    congr 1
    apply String.toByteArray_inj.mp
    simp [String.fromUTF8, toByteArray_toUtf8]

@[simp] theorem ofUtf8?_toUtf8 (text : String) : ofUtf8? (toUtf8 text) = some text :=
  ofUtf8?_eq_some_iff.mpr rfl

end Banter.Text
