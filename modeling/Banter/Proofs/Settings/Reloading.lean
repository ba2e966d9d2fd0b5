import Mathlib.Data.List.Induction
import Banter.Proofs.Json.Standard
import Banter.Settings.Form

/-!
# Settings that are read again

An object may hold any fields of settings, each once and in any order, among entries with other keys and any
values, with blanks wherever they may be. Main statement: any library that is as documented reads it as the
settings in the fields that it holds, and as the usual settings in all others.
-/

namespace Banter.Settings

open Json

/-- A member of an object, which gives a field of settings or none. -/
inductive Gives (settings : Settings) : Option Field → Member → Prop
  | field (field : Field) : Gives settings (some field) ⟨field.key, field.kind.held (settings.values field)⟩
  | other {member : Member} (unknown : ∀ field : Field, field.key ≠ member.key) : Gives settings none member

/-- A text is an object that gives fields of settings, in an order, and may have other entries. -/
def IsObject (settings : Settings) (fields : List Field) (text : String) : Prop :=
  ∃ members : List (Option Field × Member), (∀ member ∈ members, settings.Gives member.1 member.2) ∧
    fields = members.filterMap Prod.fst ∧ SpellsObject (members.map Prod.snd) text

/-- The settings in some fields, and the usual ones in all others. -/
def only (settings : Settings) (fields : List Field) : Settings where
  brainFile := if .brainFile ∈ fields then settings.brainFile else usual.brainFile
  nickname := if .nickname ∈ fields then settings.nickname else usual.nickname
  attention := if .attention ∈ fields then settings.attention else usual.attention
  echoPreface := if .echoPreface ∈ fields then settings.echoPreface else usual.echoPreface

section Values

variable (settings : Settings)

theorem values_only (fields : List Field) (field : Field) :
    (settings.only fields).values field =
      if field ∈ fields then settings.values field else usual.values field := by
  cases field <;> rfl

/-- One more field gets its value. -/
theorem values_only_concat (fields : List Field) (field : Field) :
    (settings.only (fields ++ [field])).values =
      Function.update (settings.only fields).values field (settings.values field) := by
  refine funext fun (other : Field) => ?_
  rw [values_only]
  rcases eq_or_ne other field with rfl | hother
  · rw [if_pos (List.mem_append_right _ List.mem_cons_self)]
    simp
  · rw [Function.update_of_ne hother, values_only]
    simp [hother]

theorem only_all : settings.only Field.all = settings := by
  simp [only, Field.all]

end Values

/-- No member has the key of a field that is not given. -/
theorem key_ne_of_gives {settings : Settings} {members : List (Option Field × Member)}
    (hgives : ∀ member ∈ members, settings.Gives member.1 member.2) {field : Field}
    (hnew : field ∉ members.filterMap Prod.fst) :
    ∀ member ∈ members.map Prod.snd, member.key ≠ field.key := by
  rintro _ hmember hkey
  obtain ⟨⟨given?, member⟩, hmem, rfl⟩ := List.mem_map.mp hmember
  cases hgives _ hmem with
  | field other =>
    obtain rfl := record.key_injective _ _ hkey
    exact hnew (List.mem_filterMap.mpr ⟨_, hmem, rfl⟩)
  | other unknown => exact unknown field hkey.symm

section Decoding

variable {library : Library} (h : library.IsDocumented) {settings : Settings}
include h

/-- Members are decoded as the fields that they give. -/
theorem decode_of_gives {members : List (Option Field × Member)}
    (hgives : ∀ member ∈ members, settings.Gives member.1 member.2)
    (honce : (members.filterMap Prod.fst).Nodup) :
    library.decode record usual.values (members.map Prod.snd) =
      .ok (settings.only (members.filterMap Prod.fst)).values := by
  -- What is documented says what one more member at the end does.
  induction members using List.reverseRecOn with
  | nil => exact h.decode_nil record usual.values
  | append_singleton members last ih =>
    obtain ⟨given?, member⟩ := last
    obtain ⟨hothers, hlast⟩ := List.forall_mem_append.mp hgives
    rw [List.filterMap_append] at honce ⊢
    rw [List.map_append]
    have hdecoded := ih hothers (List.nodup_append.mp honce).1
    cases List.forall_mem_singleton.mp hlast with
    | field field =>
      have hnew : field ∉ members.filterMap Prod.fst := fun hfield =>
        (List.nodup_append.mp honce).2.2 field hfield field (by simp) rfl
      have hkeys := key_ne_of_gives hothers hnew
      refine (h.decode_field hdecoded field hkeys (settings.values field)).trans ?_
      exact congrArg Except.ok (settings.values_only_concat _ field).symm
    | other unknown =>
      refine (h.decode_unknown hdecoded member unknown).trans ?_
      rw [List.filterMap_cons_none rfl, List.filterMap_nil, List.append_nil]

/-- An object is read as the fields that it gives. -/
theorem IsObject.parse {fields : List Field} {text : String} (hobject : settings.IsObject fields text)
    (honce : fields.Nodup) : parse library text = .ok (settings.only fields) := by
  obtain ⟨members, hgives, rfl, hspells⟩ := hobject
  rw [Settings.parse, h.read_of_spells hspells (decode_of_gives h hgives honce)]
  rfl

/-- Settings are written as an object that gives all their fields. -/
theorem isObject_print (settings : Settings) : settings.IsObject Field.all (settings.print library) := by
  let member (field : Field) : Option Field × Member :=
    (some field, ⟨field.key, field.kind.held (settings.values field)⟩)
  refine ⟨Field.all.map member, ?_, rfl, ?_⟩
  · intro given hgiven
    obtain ⟨field, _, rfl⟩ := List.mem_map.mp hgiven
    exact .field field
  · have hspells := h.spells_write record settings.values
    rw [h.encode_eq] at hspells
    exact hspells

end Decoding

/-- Settings survive JSON: an object that holds some of their fields, each once and in any order, and any other
entries, is read as the settings in these fields and the usual ones in all others. -/
theorem parse_restores {library : Library} (h : library.IsDocumented) (settings : Settings) :
    (∀ fields text, settings.IsObject fields text → fields.Nodup →
      parse library text = .ok (settings.only fields) ∧
      (Field.echoPreface ∈ fields → settings.echoPreface = none →
        (parse library text).map echoPreface = .ok none)) ∧
    parse library (settings.print library) = .ok settings := by
  constructor
  · intro fields text hobject honce
    have hread := hobject.parse h honce
    refine ⟨hread, ?_⟩
    intro hgiven hnone
    rw [hread, Except.map, only, if_pos hgiven, hnone]
  · have hread := (isObject_print h settings).parse h (by decide)
    rwa [only_all] at hread

/-- No preface, behind an entry that is skipped. -/
theorem parse_restores_no_preface :
    Json.standard.IsDocumented ∧
    parse Json.standard "\x7b\"x\":[\x7b\x7d],\"identical_reply_prefix\":null\x7d" =
      .ok { usual with echoPreface := none } := by
  let settings : Settings := { usual with echoPreface := none }
  have hvalue : IsValue ['[', '\x7b', '\x7d', ']'] :=
    .framed (@IsPart.last .list [] [] _ Blanks.none.blank (.element (.empty .object Blanks.none.blank))
      Blanks.none.blank)
  have hspells : Spells ['x'] "x".toList := .cons (.itself ⟨by decide, by decide, by decide⟩) .nil
  have hunknown : ∀ field : Field, field.key ≠ "x" := by
    intro field
    cases field <;> decide
  have hother : SpellsMember ⟨"x", .other⟩ _ := .entry hspells (.other hvalue) .none
  have hgiven : SpellsMember ⟨"identical_reply_prefix", .null⟩ _ :=
    .entry (spells_flatMap_writtenChar "identical_reply_prefix".toList) .null .none
  have hobject : settings.IsObject [.echoPreface]
      "\x7b\"x\":[\x7b\x7d],\"identical_reply_prefix\":null\x7d" :=
    ⟨[(none, ⟨"x", .other⟩), (some .echoPreface, ⟨"identical_reply_prefix", .null⟩)],
      List.forall_mem_cons.mpr ⟨.other hunknown, List.forall_mem_singleton.mpr (.field .echoPreface)⟩, rfl,
      _, .none, .none, .none, .cons hother (.cons hgiven .nil), by decide +kernel⟩
  exact ⟨standard_isDocumented, ((parse_restores standard_isDocumented settings).1 _ _ hobject (by decide)).1⟩

end Banter.Settings
