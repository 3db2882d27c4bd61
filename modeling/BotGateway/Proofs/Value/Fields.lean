import BotGateway.Request.Attachment
import Mathlib.Data.List.Induction

/-! Fields with names set one after the other. What comes out has every name once, and fields that
already differ in name come out as they are. -/
namespace BotGateway.Value

variable {α β : Type} {fields : List (Text × α)}

theorem setFieldNew {name : Text} {value : α} (new : name ∉ fields.map (·.1)) :
    setField name value fields = fields ++ [(name,value)] := by
  induction fields with
  | nil => rfl
  | cons field rest ih =>
    simp only [List.map_cons,List.mem_cons,not_or] at new
    have different : (field.1 == name) = false := beq_false_of_ne fun same => new.1 same.symm
    simp [setField,different,ih new.2]

theorem setFieldPresent {name : Text} {value : α} (present : name ∈ fields.map (·.1)) :
    (setField name value fields).map (·.1) = fields.map (·.1) := by
  induction fields with
  | nil => simp at present
  | cons field rest ih =>
    by_cases same : field.1 = name
    · simp [setField,same]
    · have later : name ∈ rest.map (·.1) := by
        rcases List.mem_cons.mp present with first | later
        · exact absurd first.symm same
        · exact later
      simp [setField,same,ih later]

theorem setFieldMember {name : Text} {value : α} {field} (member : field ∈ setField name value fields) :
    field = (name,value) ∨ field ∈ fields := by
  induction fields with
  | nil => exact .inl (List.mem_singleton.mp member)
  | cons first rest ih =>
    simp only [setField] at member
    split at member
    · rcases List.mem_cons.mp member with set | later
      · exact .inl set
      · exact .inr (List.mem_cons_of_mem _ later)
    · rcases List.mem_cons.mp member with kept | later
      · exact .inr (kept ▸ List.mem_cons_self)
      · exact (ih later).imp_right (List.mem_cons_of_mem _)

theorem setFieldMap {name : Text} {value : α} (turn : Text → α → β) :
    (setField name value fields).map (fun field => (field.1,turn field.1 field.2)) =
      setField name (turn name value) (fields.map fun field => (field.1,turn field.1 field.2)) := by
  induction fields with
  | nil => rfl
  | cons field rest ih =>
    by_cases same : field.1 = name
    · simp [setField,same]
    · simp [setField,same,ih]

theorem lastOfEachSnoc (fields : List (Text × α)) (name : Text) (value : α) :
    lastOfEach (fields ++ [(name,value)]) = setField name value (lastOfEach fields) := by
  simp [lastOfEach]

theorem lastOfEachNodup (fields : List (Text × α)) : ((lastOfEach fields).map (·.1)).Nodup := by
  induction fields using List.reverseRecOn with
  | nil => exact List.nodup_nil
  | append_singleton before field ih =>
    rw [lastOfEachSnoc]
    by_cases present : field.1 ∈ (lastOfEach before).map (·.1)
    · rw [setFieldPresent present]
      exact ih
    · rw [setFieldNew present,List.map_append]
      refine List.nodup_append.mpr ⟨ih,List.pairwise_singleton _ _,fun name old new added same => ?_⟩
      have last : new = field.1 := List.mem_singleton.mp added
      rw [same,last] at old
      exact present old

theorem lastOfEachSame (nodup : (fields.map (·.1)).Nodup) : lastOfEach fields = fields := by
  induction fields using List.reverseRecOn with
  | nil => rfl
  | append_singleton before field ih =>
    rw [List.map_append,List.nodup_append] at nodup
    have new : field.1 ∉ before.map (·.1) := fun old => nodup.2.2 _ old _ List.mem_cons_self rfl
    rw [lastOfEachSnoc,ih nodup.1,setFieldNew new]

theorem lastOfEachNames (fields : List (Text × α)) (name : Text) :
    name ∈ (lastOfEach fields).map (·.1) ↔ name ∈ fields.map (·.1) := by
  induction fields using List.reverseRecOn with
  | nil => rfl
  | append_singleton before field ih =>
    rw [lastOfEachSnoc]
    by_cases present : field.1 ∈ (lastOfEach before).map (·.1)
    · rw [setFieldPresent present,ih,List.map_append,List.mem_append]
      refine ⟨.inl,fun either => either.elim id fun last => ?_⟩
      cases List.mem_singleton.mp last
      exact ih.mp present
    · rw [setFieldNew present,List.map_append,List.map_append,List.mem_append,List.mem_append,ih]

theorem lastOfEachMember {field} (member : field ∈ lastOfEach fields) : field ∈ fields := by
  induction fields using List.reverseRecOn with
  | nil => exact member
  | append_singleton before last ih =>
    rw [lastOfEachSnoc] at member
    rcases setFieldMember member with set | earlier
    · exact List.mem_append_right _ (List.mem_singleton.mpr set)
    · exact List.mem_append_left _ (ih earlier)

theorem lastOfEachMap (turn : Text → α → β) (fields : List (Text × α)) :
    (lastOfEach fields).map (fun field => (field.1,turn field.1 field.2)) =
      lastOfEach (fields.map fun field => (field.1,turn field.1 field.2)) := by
  induction fields using List.reverseRecOn with
  | nil => rfl
  | append_singleton before field ih =>
    rw [lastOfEachSnoc,setFieldMap,ih,List.map_append,List.map_singleton,lastOfEachSnoc]

end BotGateway.Value
