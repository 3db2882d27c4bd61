import BotGateway.Proofs.Except
import BotGateway.Proofs.Json.Written
import BotGateway.Value.Document

/-! Values that are documents in all but form, and the document of each. Such a value is written as
its document, unless an integer in it is too long for a numeral. -/
namespace BotGateway.Value

mutual

def image : Value → Json
  | .bool b => .bool b
  | .int n => .int n
  | .text t => .text t
  | .list items => .array (imageItems items)
  | .tuple items => .array (imageItems items)
  | .map entries => .object (imageEntries entries)
  | _ => .null

def imageItems : List Value → List Json
  | [] => []
  | item :: rest => image item :: imageItems rest

def imageEntries : List (Value × Value) → List (Text × Json)
  | [] => []
  | (key,value) :: rest => (key.display,image value) :: imageEntries rest

end

def withTextKey (member : Text × Value) : Value × Value := (.text member.1,member.2)

inductive Plain : Value → Prop where
  | null : Plain .null
  | bool (b : Bool) : Plain (.bool b)
  | int (n : Int) : Plain (.int n)
  | text (t : Text) : Plain (.text t)
  | list {items : List Value} (each : ∀ item ∈ items, Plain item) : Plain (.list items)
  | tuple {items : List Value} (each : ∀ item ∈ items, Plain item) : Plain (.tuple items)
  | map {members : List (Text × Value)} (apart : (members.map (·.1)).Nodup)
      (each : ∀ member ∈ members, Plain member.2) : Plain (.map (members.map withTextKey))

def imageMember (member : Text × Value) : Text × Json := (member.1,member.2.image)

theorem imageItemsMapped (items : List Value) : imageItems items = items.map image := by
  induction items with
  | nil => rfl
  | cons item rest ih => rw [imageItems,ih,List.map_cons]

theorem imageEntriesMapped (members : List (Text × Value)) :
    imageEntries (members.map withTextKey) = members.map imageMember := by
  induction members with
  | nil => rfl
  | cons member rest ih =>
    rw [List.map_cons,List.map_cons,← ih]
    rfl

def IsWritten (value : Value) : Prop :=
  value.toJson true = if value.hasLongInteger then .error .longInteger else .ok value.image

theorem itemsImaged {items : List Value} (each : ∀ item ∈ items, item.IsWritten) :
    toJsonItems true items =
      if hasLongItem items then .error .longInteger else .ok (imageItems items) := by
  induction items with
  | nil => rfl
  | cons item rest ih =>
    obtain ⟨first,later⟩ := List.forall_mem_cons.mp each
    rw [IsWritten] at first
    rw [toJsonItems,hasLongItem,first,ih later,imageItems]
    cases item.hasLongInteger with
    | true => rfl
    | false => cases hasLongItem rest <;> rfl

theorem entriesImaged {members : List (Text × Value)} (each : ∀ member ∈ members, member.2.IsWritten) :
    toJsonEntries true (members.map withTextKey) =
      if hasLongEntry (members.map withTextKey) then .error .longInteger
      else .ok (imageEntries (members.map withTextKey)) := by
  induction members with
  | nil => rfl
  | cons member rest ih =>
    obtain ⟨first,later⟩ := List.forall_mem_cons.mp each
    rw [IsWritten] at first
    rw [List.map_cons,withTextKey,toJsonEntries,hasLongEntry,first,ih later,imageEntries]
    simp only [keyText,hasLongInteger,Bool.false_or]
    cases member.2.hasLongInteger with
    | true => rfl
    | false => cases hasLongEntry (rest.map withTextKey) <;> rfl

namespace Plain
variable {value : Value}

theorem written (plain : value.Plain) : value.IsWritten := by
  induction plain with
  | null | bool | text => rfl
  | int n =>
    rw [IsWritten,toJson,hasLongInteger,image]
  | list each ih | tuple each ih =>
    rw [IsWritten,toJson,hasLongInteger,image,Value.itemsImaged ih]
    split <;> rfl
  | map apart each ih =>
    rw [IsWritten,toJson,hasLongInteger,image,Value.entriesImaged ih]
    split <;> rfl

theorem shortItem {items : List Value} (short : hasLongItem items = false) {item : Value}
    (inside : item ∈ items) : item.hasLongInteger = false := by
  induction items with
  | nil => cases inside
  | cons first rest ih =>
    rw [hasLongItem,Bool.or_eq_false_iff] at short
    rcases List.mem_cons.mp inside with same | later
    · rw [same]
      exact short.1
    · exact ih short.2 later

theorem shortEntry {entries : List (Value × Value)} (short : hasLongEntry entries = false)
    {entry : Value × Value} (inside : entry ∈ entries) : entry.2.hasLongInteger = false := by
  induction entries with
  | nil => cases inside
  | cons first rest ih =>
    rw [hasLongEntry,Bool.or_eq_false_iff,Bool.or_eq_false_iff] at short
    rcases List.mem_cons.mp inside with same | later
    · rw [same]
      exact short.1.2
    · exact ih short.2 later

theorem lasting (plain : value.Plain) (short : value.hasLongInteger = false) :
    Json.Lasting value.image := by
  induction plain with
  | null => exact .null
  | bool b => exact .bool b
  | int n => exact .int short
  | text t => exact .text t
  | list each ih | tuple each ih =>
    rw [image,imageItemsMapped]
    apply Json.Lasting.array
    intro json inside
    obtain ⟨item,among,same⟩ := List.mem_map.mp inside
    rw [← same]
    exact ih item among (shortItem short among)
  | @map members apart each ih =>
    rw [image,imageEntriesMapped]
    apply Json.Lasting.object
    · rw [List.map_map]
      exact apart
    · intro entry inside
      obtain ⟨member,among,same⟩ := List.mem_map.mp inside
      rw [← same]
      exact ih member among (shortEntry short (List.mem_map_of_mem among))

end Plain
end BotGateway.Value
