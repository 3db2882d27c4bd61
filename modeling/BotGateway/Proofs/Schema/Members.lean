import BotGateway.Proofs.Json.Clear
import BotGateway.Proofs.Json.Short
import BotGateway.Proofs.Schema.Untagged
import BotGateway.Proofs.Value.Places
import BotGateway.Envelope

/-! What the fields of a record hold that was taken from a document: each its default, or what its shape
takes from a part of the document. -/
namespace BotGateway
open Value (ofJson ofJsonMembers)

namespace Value

theorem clearBuilt {json : Json} (clear : json.Clear) : Built (ofJson json) := by
  induction clear with
  | null => exact .null
  | bool b => exact .bool b
  | int _ => exact .int _
  | float x => exact .float x
  | text _ => exact .text _
  | array _ ih =>
    refine .list fun item member => ?_
    rw [ofJsonItemsMapped] at member
    obtain ⟨json,among,rfl⟩ := List.mem_map.mp member
    exact ih json among
  | object _ ih =>
    refine .map fun entry member => ?_
    rw [ofJsonMembersMapped] at member
    obtain ⟨json,among,rfl⟩ := List.mem_map.mp member
    exact ih json among

end Value

def Shape.Draws (shape : Shape) (value : Value) : Prop :=
  ∃ json : Json, json.Clear ∧ ((ofJson json).check shape).Takes value

section Members
variable {kind : RecordKind} {value : Value} {members : List (Text × Json)}

theorem Shape.drawsRecord (draws : (Shape.record kind).Draws value) :
    ∃ members : List (Text × Json), (∀ member ∈ members, member.2.Clear) ∧
      (kind.build (Value.checkEntries (ofJsonMembers members))).Takes value := by
  obtain ⟨json,clear,takes⟩ := draws
  cases clear with
  | @object members clear => exact ⟨members,clear,takes⟩
  | _ =>
    obtain ⟨_,⟨⟩,_⟩ := takes

theorem checksClear (clear : ∀ member ∈ members, member.2.Clear) {entry : Value × Checker}
    (among : entry ∈ Value.checkEntries (ofJsonMembers members)) :
    ∃ json : Json, json.Clear ∧ entry.2 = (ofJson json).check := by
  obtain ⟨original,member,same⟩ := Value.entriesChecked among
  rw [Value.ofJsonMembersMapped] at member
  obtain ⟨named,held,rfl⟩ := List.mem_map.mp member
  exact ⟨named.2,clear named held,same⟩

theorem Field.checkDraws {field : Field} (clear : ∀ member ∈ members, member.2.Clear)
    (takes : (field.check (Value.checkEntries (ofJsonMembers members))).1.Takes value) :
    field.default = some value ∨ field.shape.Draws value := by
  unfold Field.check at takes
  split at takes
  · rename_i key check found
    obtain ⟨entry,among,rfl⟩ := Field.foundAmong found
    obtain ⟨json,whole,same⟩ := checksClear clear among
    rw [same] at takes
    exact .inr ⟨json,whole,Verdict.takenUnder takes⟩
  · split at takes
    · rename_i default
      obtain ⟨_,⟨⟩,rfl⟩ := takes
      exact .inl default
    · obtain ⟨_,⟨⟩,_⟩ := takes

theorem RecordKind.fieldDraws (wire : kind.isWire = true) (draws : (Shape.record kind).Draws value)
    {field : Field} (among : field ∈ kind.fields) :
    field.default = some (value.field field.name) ∨ field.shape.Draws (value.field field.name) := by
  obtain ⟨members,clear,takes⟩ := Shape.drawsRecord draws
  have regular := List.all_eq_true.mp (RecordKind.wireRegular wire)
  have explained : ∀ field ∈ kind.fields,
      (field.check (Value.checkEntries (ofJsonMembers members))).1.Explained := by
    intro field listed
    refine Field.checkExplained fun entry member => ?_
    obtain ⟨json,whole,same⟩ := checksClear clear member
    rw [same]
    exact ((Value.clearBuilt whole).yields _ (Field.shapeRegular (regular field listed))).explained
  obtain ⟨values,rfl,taken⟩ := RecordKind.built explained takes
  have length := taken.length_eq
  obtain ⟨i,placed⟩ := List.mem_iff_getElem?.mp among
  obtain ⟨own,valued,takes⟩ := relatedAt taken placed
  have named : (kind.fields.map (·.name))[i]? = some field.name := by
    rw [List.getElem?_map,placed]
    rfl
  have held : (Value.record kind ((kind.fields.map (·.name)).zip values)).field field.name = own := by
    have apart := (RecordKind.wireNames wire).1
    rw [Value.field,Value.zipLookup apart (by simpa using length) named valued]
    rfl
  rw [held]
  exact Field.checkDraws clear takes

end Members

namespace Numeral
open Binary64 (Small)

end Numeral

namespace Shape
variable {shape : Shape} {value : Value}

theorem drawsScalar {α : Type} {wrap : α → Value} {read : Value → Except Issue.Cause (α × Bool)}
    (scalar : ∀ given parts, Value.conform given parts shape = .scalar wrap (read given))
    (draws : shape.Draws value) : ∃ json a exact, json.Clear ∧ read (ofJson json) = .ok (a,exact) ∧
      value = wrap a := by
  obtain ⟨json,clear,takes⟩ := draws
  obtain ⟨parts,conforms⟩ := (ofJson json).checkConforms
  rw [conforms,scalar] at takes
  cases found : read (ofJson json) with
  | error cause =>
    rw [found] at takes
    obtain ⟨_,⟨⟩,_⟩ := takes
  | ok result =>
    rw [found] at takes
    obtain ⟨_,⟨⟩,rfl⟩ := takes
    exact ⟨json,result.1,result.2,clear,found,rfl⟩

theorem drawsText (draws : Shape.text.Draws value) : ∃ t, value = .text t ∧ Utf8.Encodable t := by
  obtain ⟨json,t,exactly,clear,read,rfl⟩ := drawsScalar (fun given parts => by rw [Value.conform]) draws
  cases clear with
  | text encodable =>
    cases read
    exact ⟨_,rfl,encodable⟩
  | _ => cases read

theorem drawsOptional (draws : (Shape.optional shape).Draws value) :
    value = .null ∨ shape.Draws value := by
  obtain ⟨json,clear,takes⟩ := draws
  obtain ⟨parts,conforms⟩ := (ofJson json).checkConforms
  rw [conforms,Value.conform] at takes
  split at takes
  · obtain ⟨_,⟨⟩,rfl⟩ := takes
    exact .inl rfl
  · rw [← conforms] at takes
    exact .inr ⟨json,clear,takes⟩

end Shape
end BotGateway
