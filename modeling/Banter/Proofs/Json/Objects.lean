import Mathlib.Data.List.Forall2
import Mathlib.Logic.Function.Basic
import Banter.Json.Record
import Banter.Proofs.Json.Values

/-!
# Objects, and what is documented of a library

The grammar of objects with any members, and the laws that a library for JSON documents. The laws for members
say what the end of an object adds to what stands before; those for texts tie objects as they are spelled to
their members.
-/

namespace Banter.Json

structure Blanks where
  chars : List Char
  blank : AreBlank chars

def Blanks.none : Blanks :=
  ⟨[], by simp [AreBlank]⟩

/-- The blanks of a member, before and behind its key and its value. -/
structure Gaps where
  beforeKey : Blanks
  behindKey : Blanks
  beforeValue : Blanks
  behindValue : Blanks

def Gaps.none : Gaps :=
  ⟨.none, .none, .none, .none⟩

/-- A key and a value with a colon between them. -/
def Gaps.entry (gaps : Gaps) (key value : List Char) : List Char :=
  gaps.beforeKey.chars ++ (key ++ (gaps.behindKey.chars ++
    ':' :: (gaps.beforeValue.chars ++ (value ++ gaps.behindValue.chars))))

/-- Characters that spell the value of a member. Any value whatever may be looked at as another one. -/
inductive SpellsHeld : Held → List Char → Prop
  | null : SpellsHeld .null "null".toList
  | text {spelling : List Char} {text : String} (spells : Spells spelling text.toList) :
      SpellsHeld (.text text) ('"' :: (spelling ++ ['"']))
  | other {value : List Char} (isValue : IsValue value) : SpellsHeld .other value

inductive SpellsMember : Member → List Char → Prop
  | entry {key : String} {held : Held} {spelling value : List Char} (spellsKey : Spells spelling key.toList)
      (spellsValue : SpellsHeld held value) (gaps : Gaps) :
      SpellsMember ⟨key, held⟩ (gaps.entry ('"' :: (spelling ++ ['"'])) value)

def SpellsObject (members : List Member) (text : String) : Prop :=
  ∃ (entries : List (List Char)) (before inside after : Blanks), List.Forall₂ SpellsMember members entries ∧
    text.toList = before.chars ++ '\x7b' :: (inside.chars ++
      ([','].intercalate entries ++ '\x7d' :: after.chars))

/-- What is documented of a library. -/
structure Library.IsDocumented (library : Library) : Prop where
  /-- A missing field takes its usual value. -/
  decode_nil (record : Record) (usual : record.Values) : library.decode record usual [] = .ok usual
  /-- A member with the key of a field gives the field its value. -/
  decode_field {record : Record} {usual values : record.Values} {members : List Member}
    (decoded : library.decode record usual members = .ok values) (field : record.Field)
    (once : ∀ member ∈ members, member.key ≠ record.key field) (value : (record.kind field).Value) :
    library.decode record usual (members ++ [⟨record.key field, (record.kind field).held value⟩]) =
      .ok (Function.update values field value)
  /-- A member with an unknown key is passed over. -/
  decode_unknown {record : Record} {usual values : record.Values} {members : List Member}
    (decoded : library.decode record usual members = .ok values) (member : Member)
    (unknown : ∀ field, record.key field ≠ member.key) :
    library.decode record usual (members ++ [member]) = .ok values
  /-- A record has a member for each of its fields, in their order. -/
  encode_eq (record : Record) (values : record.Values) : library.encode record values =
    record.fields.map fun field => ⟨record.key field, (record.kind field).held (values field)⟩
  /-- However an object is spelled, it is read as its members are decoded. -/
  read_of_spells {record : Record} {usual values : record.Values} {members : List Member} {text : String}
    (spells : SpellsObject members text) (decoded : library.decode record usual members = .ok values) :
    library.read record usual text = .ok values
  /-- What is written spells the members that are encoded. -/
  spells_write (record : Record) (values : record.Values) :
    SpellsObject (library.encode record values) (library.write record values)

end Banter.Json
