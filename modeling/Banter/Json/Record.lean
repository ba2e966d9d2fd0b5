import Banter.Fault

/-!
# Records in JSON

What is asked of a library that reads and writes JSON. It is told which fields a record has, and turns texts into
values of these fields and back.
-/

namespace Banter.Json

inductive Kind where
  | text
  | optionalText
deriving DecidableEq, Repr

abbrev Kind.Value : Kind → Type
  | text => String
  | optionalText => Option String

/-- The fields of a record in their order, each with a key of its own and the kind of its values. -/
structure Record where
  Field : Type
  [decEq : DecidableEq Field]
  fields : List Field
  key : Field → String
  kind : Field → Kind
  mem_fields : ∀ field, field ∈ fields
  key_injective : ∀ a b, key a = key b → a = b

namespace Record

attribute [instance] Record.decEq

abbrev Values (record : Record) : Type :=
  (field : record.Field) → (record.kind field).Value

def field? (record : Record) (key : String) : Option record.Field :=
  record.fields.find? fun field => record.key field == key

theorem field?_eq_some_iff {record : Record} {key : String} {field : record.Field} :
    record.field? key = some field ↔ record.key field = key := by
  constructor
  · intro h
    have hkey : (record.key field == key) = true := by simpa using List.find?_some h
    exact eq_of_beq hkey
  · rintro rfl
    have hsome : (record.field? (record.key field)).isSome := by
      rw [field?, List.find?_isSome]
      exact ⟨field, record.mem_fields field, beq_self_eq_true _⟩
    obtain ⟨other, hother⟩ := Option.isSome_iff_exists.mp hsome
    have hkey : record.key other = record.key field := by simpa using List.find?_some hother
    rw [hother, record.key_injective other field hkey]

end Record

/-- The value of a member of an object, as far as a field can take it. -/
inductive Held where
  | null
  | text (text : String)
  | other

structure Member where
  key : String
  held : Held

/-- What the value of a field is held as. -/
def Kind.held : (kind : Kind) → kind.Value → Held
  | .text, given => .text given
  | .optionalText, some given => .text given
  | .optionalText, none => .null

/-- A library for JSON. Records are decoded from the members of an object and encoded to them, whatever the
text of the object looks like; and they are read from texts and written to them. -/
structure Library where
  decode (record : Record) (usual : record.Values) (members : List Member) : Except JsonTrouble record.Values
  encode (record : Record) (values : record.Values) : List Member
  read (record : Record) (usual : record.Values) (text : String) : Except JsonTrouble record.Values
  write (record : Record) (values : record.Values) : String

end Banter.Json
