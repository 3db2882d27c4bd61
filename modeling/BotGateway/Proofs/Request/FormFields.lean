import BotGateway.Proofs.Except
import BotGateway.Proofs.Request.Encoding
import BotGateway.Proofs.Request.Parts
import BotGateway.Proofs.Request.Prepared
import Mathlib.Data.List.Forall2

/-! Form fields beside document members. Fields can be written as a form exactly when they can be
written as a document, and a form field is the member's text, or else its compact document. -/
namespace BotGateway
open Utf8 Value

namespace Json

def formText : Json → Text
  | .text t => t
  | json => json.write compact

def formPart (member : Text × Json) : Part := ⟨member.1,none,.text member.2.formText⟩

theorem formTextEncodable (json : Json) :
    Encodable json.formText ↔ Encodable (json.write compact) := by
  cases json with
  | text t => rw [formText,write,quoteEncodable]
  | _ => rfl

theorem formPartSendable (member : Text × Json) : (formPart member).Sendable ↔
    Encodable member.1 ∧ Encodable (member.2.write compact) := by
  rw [← formTextEncodable]
  constructor
  · intro sendable
    exact ⟨sendable.name,sendable.data rfl⟩
  · rintro ⟨name,content⟩
    refine ⟨name,fun _ none => (by cases none),fun {t} same => ?_⟩
    cases same
    exact content

theorem writeMembersEncodable (members : List (Text × Json)) :
    Encodable (writeMembers compact members) ↔
      ∀ member ∈ members, Encodable member.1 ∧ Encodable (member.2.write compact) := by
  induction members with
  | nil => simp [writeMembers,encodableNil]
  | cons member rest ih =>
    obtain ⟨key,json⟩ := member
    cases rest with
    | nil => simp [writeMembers,compact,quoteEncodable]
    | cons next others =>
      rw [List.forall_mem_cons,← ih]
      simp [writeMembers,compact,quoteEncodable,and_assoc]

theorem writeObjectEncodable (members : List (Text × Json)) :
    Encodable ((object members).write compact) ↔ ∀ member ∈ members, (formPart member).Sendable := by
  simp only [write,encodableAppend,stringEncodable,writeMembersEncodable,formPartSendable,true_and,
    and_true]

end Json

namespace Value

def textEntry (field : Text × Value) : Value × Value := (.text field.1,field.2)

theorem toJsonMap (entries : List (Value × Value)) :
    toJson false (map entries) = (toJsonEntries false entries).map .object := by
  rw [toJson]
  cases toJsonEntries false entries <;> rfl

theorem writeMap (entries : List (Value × Value)) : (map entries).write =
    (toJsonEntries false entries).map fun members => (Json.object members).write Json.compact := by
  rw [Value.write,toJsonMap]
  cases toJsonEntries false entries <;> rfl

theorem toJsonEach {fields : List (Text × Value)} {members}
    (written : toJsonEntries false (fields.map textEntry) = .ok members) :
    List.Forall₂ (fun field member => member.1 = field.1 ∧ field.2.toJson false = .ok member.2) fields
      members := by
  induction fields generalizing members with
  | nil =>
    cases written
    exact .nil
  | cons field rest ih =>
    rw [List.map_cons,textEntry,toJsonEntries,keyText] at written
    obtain ⟨_,⟨⟩,written⟩ := exceptOk.mp written
    obtain ⟨json,first,written⟩ := exceptOk.mp written
    obtain ⟨others,later,same⟩ := exceptOk.mp written
    cases same
    exact .cons ⟨rfl,first⟩ (ih later)

theorem toJsonNames {fields : List (Text × Value)} {members}
    (written : toJsonEntries false (fields.map textEntry) = .ok members) :
    members.map (·.1) = fields.map (·.1) := by
  have each := toJsonEach written
  clear written
  induction each with
  | nil => rfl
  | cons one _ ih => rw [List.map_cons,List.map_cons,one.1,ih]

end Value

namespace Payload
open Json

theorem fieldTextJson (value : Value) : fieldText value = (value.toJson false).map formText := by
  cases value with
  | text t => rfl
  | int n =>
    rw [fieldText,Value.write,toJson]
    · split <;> rfl
    · exact fun _ same => by cases same
  | list items =>
    rw [fieldText,Value.write,toJson]
    · cases toJsonItems false items <;> rfl
    · exact fun _ same => by cases same
  | tuple items =>
    rw [fieldText,Value.write,toJson]
    · cases toJsonItems false items <;> rfl
    · exact fun _ same => by cases same
  | map entries =>
    rw [fieldText,Value.write,toJson]
    · cases toJsonEntries false entries <;> rfl
    · exact fun _ same => by cases same
  | _ => rfl

theorem formPartsJson (fields : List (Text × Value)) : formParts fields =
    (toJsonEntries false (fields.map textEntry)).map (List.map formPart) := by
  induction fields with
  | nil => rfl
  | cons field rest ih =>
    obtain ⟨name,value⟩ := field
    simp only [formParts,fieldTextJson,ih,List.map_cons,textEntry,toJsonEntries,keyText]
    cases value.toJson false with
    | error cause => rfl
    | ok json => cases toJsonEntries false (rest.map textEntry) <;> rfl

theorem formPartsMade {fields : List (Text × Value)} {form : List Part}
    (written : formParts fields = .ok form) : ∃ members,
      toJsonEntries false (fields.map textEntry) = .ok members ∧ form = members.map formPart := by
  rw [formPartsJson] at written
  cases made : toJsonEntries false (fields.map textEntry) with
  | error cause =>
    rw [made] at written
    cases written
  | ok members =>
    rw [made] at written
    cases written
    exact ⟨members,rfl,rfl⟩

end Payload
end BotGateway
