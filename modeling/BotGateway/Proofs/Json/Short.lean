import BotGateway.Proofs.Json.Found
import BotGateway.Proofs.Schema.Endings

/-! Documents whose integers are short enough to be written. Every document that was read is one of
them, and as a value it has the same document form again. -/
namespace BotGateway

namespace Json

inductive Short : Json → Prop where
  | null : Short .null
  | bool (b : Bool) : Short (.bool b)
  | int {n : Int} (short : Numeral.isLong n = false) : Short (.int n)
  | float (x : Binary64) : Short (.float x)
  | text (t : Text) : Short (.text t)
  | array {items : List Json} (short : ∀ item ∈ items, Short item) : Short (.array items)
  | object {members : List (Text × Json)} (short : ∀ member ∈ members, Short member.2) :
      Short (.object members)

theorem Found.short {dialect : Dialect} {whole : Text} {json : Json} (found : Found dialect whole json) :
    json.Short := by
  induction found with
  | null => exact .null
  | bool b => exact .bool b
  | int short => exact .int short
  | float x => exact .float x
  | text => exact .text _
  | array _ ih => exact .array ih
  | object _ ih => exact .object ih

theorem strictShort {raw : Bytes} {json : Json} (read : ofStrictBytes? raw = some json) :
    json.Short := by
  obtain ⟨whole,_,found⟩ := strictFound read
  exact found.short

end Json

namespace Value

theorem ofJsonItemsMapped (items : List Json) : ofJsonItems items = items.map ofJson := by
  induction items with
  | nil => rfl
  | cons item rest ih => rw [ofJsonItems,ih,List.map_cons]

theorem ofJsonMembersMapped (members : List (Text × Json)) :
    ofJsonMembers members = members.map fun member => (.text member.1,ofJson member.2) := by
  induction members with
  | nil => rfl
  | cons member rest ih => rw [ofJsonMembers,ih,List.map_cons]

section Written
variable {showing : Bool}

theorem itemsWritten {items : List Json}
    (written : ∀ item ∈ items, toJson showing (ofJson item) = .ok item) :
    toJsonItems showing (ofJsonItems items) = .ok items := by
  induction items with
  | nil => rfl
  | cons item rest ih =>
    obtain ⟨first,others⟩ := List.forall_mem_cons.mp written
    rw [ofJsonItems,toJsonItems,first,ih others]
    rfl

theorem membersWritten {members : List (Text × Json)}
    (written : ∀ member ∈ members, toJson showing (ofJson member.2) = .ok member.2) :
    toJsonEntries showing (ofJsonMembers members) = .ok members := by
  induction members with
  | nil => rfl
  | cons member rest ih =>
    obtain ⟨first,others⟩ := List.forall_mem_cons.mp written
    rw [ofJsonMembers,toJsonEntries,first,ih others]
    rfl

theorem shortWritten {json : Json} (short : json.Short) :
    toJson showing (ofJson json) = .ok json := by
  induction short with
  | null | bool | float | text => rfl
  | int short => rw [ofJson,toJson,short,if_neg Bool.false_ne_true]
  | array short ih =>
    rw [ofJson,toJson,itemsWritten ih]
    rfl
  | object short ih =>
    rw [ofJson,toJson,membersWritten ih]
    rfl

end Written

def Read (value : Value) : Prop := ∃ json : Json, json.Short ∧ value = ofJson json

theorem readInherited : Inherited Read where
  null := ⟨.null,.null,rfl⟩
  list := by
    rintro items ⟨json,short,same⟩ item member
    cases short with
    | array short =>
      cases same
      rw [ofJsonItemsMapped] at member
      obtain ⟨json,among,rfl⟩ := List.mem_map.mp member
      exact ⟨json,short json among,rfl⟩
    | _ => cases same
  tuple := by
    rintro items ⟨json,short,same⟩
    cases short <;> cases same
  set := by
    rintro items ⟨json,short,same⟩
    cases short <;> cases same
  map := by
    rintro entries ⟨json,short,same⟩ entry member
    cases short with
    | object short =>
      cases same
      rw [ofJsonMembersMapped] at member
      obtain ⟨json,among,rfl⟩ := List.mem_map.mp member
      exact ⟨json.2,short json among,rfl⟩
    | _ => cases same

end Value
end BotGateway
