import BotGateway.Proofs.Schema.Untagged
import BotGateway.Proofs.Value.Places

/-! The places of a value at which a shape meets a set of variants, in the order of the check. -/
namespace BotGateway

structure Meeting where
  path : List Step
  set : VariantSet
  value : Value

namespace Meeting

def under (step : Step) (meeting : Meeting) : Meeting := {meeting with path := step :: meeting.path}

def failure? (meeting : Meeting) : Option Failure :=
  match meeting.set.coerce meeting.value with
  | .ok _ => none
  | .error (.unwritable .longInteger) => none
  | .error failure => some failure

end Meeting

abbrev Finder := Shape → List Meeting

def Field.given? {α : Type} (field : Field) (entries : List (Value × α)) : Option α :=
  (Value.entry? field.name entries).or (Value.entry? (Value.attributeName field.name) entries)

def Field.meetings (field : Field) (entries : List (Value × Finder)) : List Meeting :=
  match field.given? entries with
  | some find => (find field.shape).map (·.under (.field field.name))
  | none => []

theorem Value.entryMapped {α β : Type} (key : Text) (f : α → β) (entries : List (Value × α)) :
    Value.entry? key (entries.map fun entry => (entry.1,f entry.2)) = (Value.entry? key entries).map f := by
  simp only [Value.entry?,List.find?_map,Option.map_map]
  rfl

namespace Field
variable {field : Field}

theorem givenMapped {α β : Type} (f : α → β) (entries : List (Value × α)) :
    field.given? (entries.map fun entry => (entry.1,f entry.2)) = (field.given? entries).map f := by
  rw [given?,Value.entryMapped,Value.entryMapped,given?]
  cases Value.entry? field.name entries <;> rfl

theorem givenAmong {α : Type} {entries : List (Value × α)} {found : α}
    (given : field.given? entries = some found) : ∃ entry ∈ entries, entry.2 = found := by
  rcases Option.or_eq_some_iff.mp given with own | ⟨_,other⟩
  · exact Value.entryAmong own
  · exact Value.entryAmong other

theorem checkGiven (field : Field) (entries : List (Value × Checker)) : (field.check entries).1 =
    match field.given? entries with
    | some check => (check field.shape).under
        (.field (if (Value.entry? field.name entries).isSome then field.name
          else Value.attributeName field.name))
    | none =>
      match field.default with
      | some value => .asIs value
      | none => .rejected [⟨[.field field.name],.missing⟩] := by
  rw [check,find?,given?]
  cases Value.entry? field.name entries with
  | some => rfl
  | none =>
    dsimp only
    cases Value.entry? (Value.attributeName field.name) entries with
    | some => rfl
    | none => cases field.default <;> rfl

end Field

namespace Value

def meetingsIn (value : Value) (items : List Finder) (entries : List (Value × Finder)) : Finder
  | .optional shape => if value.isNull then [] else meetingsIn value items entries shape
  | .listOf shape =>
    match value with
    | .list _ | .tuple _ | .set _ =>
      (items.mapIdx fun i find => (find shape).map (·.under (.index i))).flatten
    | _ => []
  | .record kind =>
    match value with
    | .map _ => kind.fields.flatMap (·.meetings entries)
    | _ => []
  | .tagged variants => [⟨[],variants,value⟩]
  | _ => []

mutual

def meetings : Value → Finder
  | .list items => meetingsIn (.list items) (meetingsOfItems items) []
  | .tuple items => meetingsIn (.tuple items) (meetingsOfItems items) []
  | .set items => meetingsIn (.set items) (meetingsOfItems items) []
  | .map entries => meetingsIn (.map entries) [] (meetingsOfEntries entries)
  | other => meetingsIn other [] []

def meetingsOfItems : List Value → List Finder
  | [] => []
  | item :: rest => meetings item :: meetingsOfItems rest

def meetingsOfEntries : List (Value × Value) → List (Value × Finder)
  | [] => []
  | (key,value) :: rest => (key,meetings value) :: meetingsOfEntries rest

end

def contents : Value → List Value
  | .list items | .tuple items | .set items => items
  | _ => []

def pairs : Value → List (Value × Value)
  | .map entries => entries
  | _ => []

def parts (value : Value) : Parts :=
  ⟨value.contents.map check,value.pairs.map fun pair => (pair.1,pair.2.check)⟩

theorem checkOpened (value : Value) : value.check = value.conform value.parts := by
  cases value <;> simp only [check,parts,contents,pairs,checkItemsMapped,checkEntriesMapped] <;> rfl

theorem meetingsOfItemsMapped (items : List Value) : meetingsOfItems items = items.map meetings := by
  induction items with
  | nil => rfl
  | cons item rest ih => rw [meetingsOfItems,ih,List.map_cons]

theorem meetingsOfEntriesMapped (entries : List (Value × Value)) :
    meetingsOfEntries entries = entries.map fun pair => (pair.1,pair.2.meetings) := by
  induction entries with
  | nil => rfl
  | cons entry rest ih => rw [meetingsOfEntries,ih,List.map_cons]

theorem meetingsOpened (value : Value) : value.meetings = value.meetingsIn (value.contents.map meetings)
    (value.pairs.map fun pair => (pair.1,pair.2.meetings)) := by
  cases value <;> simp only [meetings,contents,pairs,meetingsOfItemsMapped,meetingsOfEntriesMapped] <;> rfl

theorem contentSmaller {value item : Value} (member : item ∈ value.contents) :
    sizeOf item < sizeOf value := by
  cases value with
  | list items | tuple items | set items =>
    have inside := List.sizeOf_lt_of_mem member
    simp only [contents,list.sizeOf_spec,tuple.sizeOf_spec,set.sizeOf_spec] at inside ⊢
    omega
  | _ => cases member

theorem pairSmaller {value : Value} {pair : Value × Value} (member : pair ∈ value.pairs) :
    sizeOf pair.2 < sizeOf value := by
  cases value with
  | map entries =>
    have inside := memberSmaller member
    simp only [pairs,map.sizeOf_spec] at inside ⊢
    omega
  | _ => cases member

theorem byContents {P : Value → Prop} (step : ∀ value, (∀ item ∈ value.contents, P item) →
    (∀ pair ∈ value.pairs, P pair.2) → P value) (value : Value) : P value :=
  step value (fun item _member => byContents step item) fun pair _member => byContents step pair.2
termination_by sizeOf value
decreasing_by
  · exact contentSmaller _member
  · exact pairSmaller _member

inductive Meets : Value → Shape → Meeting → Prop where
  | here (value : Value) (set : VariantSet) : Meets value (.tagged set) ⟨[],set,value⟩
  | optional {value : Value} {shape : Shape} {meeting : Meeting} (given : value.isNull = false)
      (meets : Meets value shape meeting) : Meets value (.optional shape) meeting
  | item {value item : Value} {shape : Shape} {inner : Meeting} {i : Nat}
      (placed : value.contents[i]? = some item) (meets : Meets item shape inner) :
      Meets value (.listOf shape) (inner.under (.index i))
  | field {value given : Value} {kind : RecordKind} {field : Field} {inner : Meeting}
      (listed : field ∈ kind.fields) (found : field.given? value.pairs = some given)
      (meets : Meets given field.shape inner) :
      Meets value (.record kind) (inner.under (.field field.name))

def Met (value : Value) : Prop := ∀ shape, ∀ meeting ∈ value.meetings shape, Meets value shape meeting

section Met
variable {value : Value} (items : ∀ item ∈ value.contents, item.Met) (pairs : ∀ pair ∈ value.pairs, pair.2.Met)
include items

theorem itemsMeet {shape : Shape} {meeting : Meeting}
    (member : meeting ∈ ((value.contents.map meetings).mapIdx fun i find =>
      (find shape).map (·.under (.index i))).flatten) : Meets value (.listOf shape) meeting := by
  obtain ⟨found,placed,within⟩ := List.mem_flatten.mp member
  obtain ⟨i,bound,rfl⟩ := List.mem_mapIdx.mp placed
  obtain ⟨inner,held,rfl⟩ := List.mem_map.mp within
  rw [List.getElem_map] at held
  rw [List.length_map] at bound
  exact .item (List.getElem?_eq_getElem bound) (items _ (List.getElem_mem bound) shape inner held)

omit items in
include pairs in
theorem fieldsMeet {kind : RecordKind} {meeting : Meeting}
    (member : meeting ∈ kind.fields.flatMap
      (·.meetings (value.pairs.map fun pair => (pair.1,pair.2.meetings)))) :
    Meets value (.record kind) meeting := by
  obtain ⟨field,listed,within⟩ := List.mem_flatMap.mp member
  rw [Field.meetings,Field.givenMapped] at within
  cases found : field.given? value.pairs with
  | none =>
    rw [found] at within
    cases within
  | some given =>
    rw [found] at within
    obtain ⟨inner,held,rfl⟩ := List.mem_map.mp within
    obtain ⟨pair,among,rfl⟩ := Field.givenAmong found
    exact .field listed found (pairs pair among field.shape inner held)

include pairs in
theorem openedMeet : value.Met := by
  intro shape meeting member
  rw [meetingsOpened] at member
  cases shape with
  | optional shape =>
    rw [meetingsIn] at member
    split at member
    · cases member
    · rename_i given
      rw [← meetingsOpened] at member
      exact .optional (Bool.not_eq_true _ ▸ given) (openedMeet shape meeting member)
  | listOf shape =>
    cases value with
    | list | tuple | set => exact itemsMeet items member
    | _ => cases member
  | record kind =>
    cases value with
    | map => exact fieldsMeet pairs member
    | _ => cases member
  | tagged set =>
    cases List.mem_singleton.mp member
    exact .here value set
  | _ => cases member

end Met

theorem meetsListed {value : Value} {shape : Shape} {meeting : Meeting} (meets : Meets value shape meeting) :
    meeting ∈ value.meetings shape := by
  induction meets with
  | here value set =>
    rw [meetingsOpened]
    exact List.mem_singleton.mpr rfl
  | optional given _ ih =>
    rw [meetingsOpened,meetingsIn,given]
    rw [meetingsOpened] at ih
    exact ih
  | @item value item shape inner i placed _ ih =>
    have among : inner.under (.index i) ∈ ((value.contents.map meetings).mapIdx fun i find =>
        (find shape).map (·.under (.index i))).flatten := by
      obtain ⟨bound,rfl⟩ := List.getElem?_eq_some_iff.mp placed
      refine List.mem_flatten.mpr ⟨_,List.mem_mapIdx.mpr ⟨i,by simpa using bound,rfl⟩,?_⟩
      rw [List.getElem_map]
      exact List.mem_map.mpr ⟨inner,ih,rfl⟩
    rw [meetingsOpened]
    cases value with
    | list | tuple | set => exact among
    | _ => cases placed
  | @field value given kind field inner listed found _ ih =>
    have among : inner.under (.field field.name) ∈ kind.fields.flatMap
        (·.meetings (value.pairs.map fun pair => (pair.1,pair.2.meetings))) := by
      refine List.mem_flatMap.mpr ⟨field,listed,?_⟩
      rw [Field.meetings,Field.givenMapped,found]
      exact List.mem_map.mpr ⟨inner,ih,rfl⟩
    rw [meetingsOpened]
    cases value with
    | map => exact among
    | _ => cases found

theorem meetingsMeet (value : Value) (shape : Shape) (meeting : Meeting) :
    meeting ∈ value.meetings shape ↔ Meets value shape meeting := by
  refine ⟨?_,meetsListed⟩
  have met : value.Met := by
    induction value using byContents with
    | step value items pairs => exact openedMeet items pairs
  exact met shape meeting

theorem Meets.inherits {tags : Value → Prop} (inherited : Inherited tags) {value : Value} {shape : Shape}
    {meeting : Meeting} (meets : Meets value shape meeting) (holds : tags value) : tags meeting.value := by
  induction meets with
  | here => exact holds
  | optional _ _ ih => exact ih holds
  | @item value item _ _ _ placed _ ih =>
    have among := List.mem_of_getElem? placed
    cases value with
    | list => exact ih (inherited.list holds item among)
    | tuple => exact ih (inherited.tuple holds item among)
    | set => exact ih (inherited.set holds item among)
    | _ => cases among
  | @field value _ _ _ _ _ found _ ih =>
    obtain ⟨pair,among,rfl⟩ := Field.givenAmong found
    cases value with
    | map => exact ih (inherited.map holds pair among)
    | _ => cases among

end Value
end BotGateway
