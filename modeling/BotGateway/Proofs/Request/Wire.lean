import BotGateway.Proofs.Request.LocalFiles
import BotGateway.Proofs.Value.Fields

/-! The document form of a value, place by place. Where the names differ, every place keeps its name
and its order and holds the document form of what stood there; no file and no record is left. -/
namespace BotGateway.Value

variable {value inner : Value} {path : List Text} {trail : Trail}

def wireChild (path : List Text) (child : Text × Value) : Text × Value :=
  (child.1,child.2.wire (path ++ [child.1]))

theorem wireNotNull (notNull : value.isNull = false) : (value.wire path).isNull = false := by
  cases value with
  | null => exact notNull
  | _ => rfl

theorem memberNotNull {child} (member : child ∈ value.members) : child.2.isNull = false := by
  cases value with
  | map entries =>
    obtain ⟨entry,kept,rfl⟩ := List.mem_map.mp member
    simpa using (List.mem_filter.mp kept).2
  | record kind fields => simpa using (List.mem_filter.mp member).2
  | file f => simpa using (List.mem_filter.mp member).2
  | _ => simp [members] at member

theorem wireEntriesMembers (path : List Text) (entries : List (Value × Value)) :
    wireEntries path entries = (map entries).members.map (wireChild path) := by
  induction entries with
  | nil => rfl
  | cons entry rest ih =>
    simp only [members] at ih
    cases none : entry.2.isNull <;> simp [wireEntries,members,wireChild,none,ih]

theorem wireFieldsMembers (path : List Text) (kind : RecordKind) (fields : List (Text × Value)) :
    wireFields path fields = (record kind fields).members.map (wireChild path) := by
  induction fields with
  | nil => rfl
  | cons field rest ih =>
    simp only [members] at ih
    cases none : field.2.isNull <;> simp [wireFields,members,wireChild,none,ih]

theorem wireItemsMapped (path : List Text) (index : Nat) (items : List Value) :
    wireItems path index items =
      items.mapIdx fun i item => item.wire (path ++ [Numeral.ofNat (index + i)]) := by
  induction items generalizing index with
  | nil => rfl
  | cons item rest ih =>
    simp only [wireItems,ih,List.mapIdx_cons,Nat.add_zero,Nat.add_assoc,Nat.add_comm 1]

theorem ofFieldsChildren {fields : List (Text × Value)}
    (notNull : ∀ field ∈ fields, field.2.isNull = false) :
    (ofFields fields).children = lastOfEach fields := by
  have all : ∀ field ∈ lastOfEach fields, field.2.isNull = false :=
    fun field member => notNull field (lastOfEachMember member)
  have kept : ((lastOfEach fields).filter fun field => !field.2.isNull) = lastOfEach fields :=
    List.filter_eq_self.mpr fun field member => by simp [all field member]
  simp [ofFields,children,members,List.filter_map,Function.comp_def,display,kept]

theorem wireMembersChildren (path : List Text) (value : Value) :
    (ofFields (value.members.map (wireChild path))).children =
      lastOfEach (value.members.map (wireChild path)) := by
  refine ofFieldsChildren fun field member => ?_
  obtain ⟨child,kept,rfl⟩ := List.mem_map.mp member
  exact wireNotNull (memberNotNull kept)

theorem wireItemsChildren (path : List Text) (items : List Value) :
    (list (wireItems path 0 items)).children =
      lastOfEach ((items.mapIdx fun i item => (Numeral.ofNat i,item)).map (wireChild path)) := by
  have names : (((items.mapIdx fun i item => (Numeral.ofNat i,item)).map (wireChild path)).map
      (·.1)).Nodup := by
    rw [List.map_map]
    exact itemNamesNodup items
  rw [lastOfEachSame names,wireItemsMapped,children]
  refine List.ext_getElem? fun i => ?_
  simp only [List.getElem?_mapIdx,List.getElem?_map,Option.map_map,Nat.zero_add]
  rfl

theorem wireChildren (folder : ∀ f, value ≠ .file f) (path : List Text) :
    (value.wire path).children = lastOfEach (value.children.map (wireChild path)) := by
  cases value with
  | file f => exact absurd rfl (folder f)
  | map entries =>
    rw [wire,wireEntriesMembers]
    exact wireMembersChildren path _
  | record kind fields =>
    rw [wire,wireFieldsMembers path kind]
    exact wireMembersChildren path _
  | list items => exact wireItemsChildren path items
  | tuple items => exact wireItemsChildren path items
  | _ => rfl

theorem wireTop (path : List Text) (value : Value) :
    (∀ f, value.wire path ≠ .file f) ∧ ∀ kind fields, value.wire path ≠ .record kind fields := by
  constructor
  · intro f same
    cases value <;> simp [wire,ofFields] at same
  · intro kind fields same
    cases value <;> simp [wire,ofFields] at same

theorem wirePlain (within : (value.wire path).Within trail inner) :
    (∀ f, inner ≠ .file f) ∧ ∀ kind fields, inner ≠ .record kind fields := by
  induction value using byChildren generalizing path trail with
  | step value ih =>
    cases within with
    | here => exact wireTop path value
    | inside placed next =>
      by_cases single : ∃ f, value = .file f
      · obtain ⟨f,rfl⟩ := single
        simp [wire,children,members] at placed
      · rw [wireChildren fun f same => single ⟨f,same⟩] at placed
        obtain ⟨child,member,same⟩ :=
          List.mem_map.mp (lastOfEachMember (List.mem_of_getElem? placed))
        cases same
        exact ih child member next

theorem wireFound (keyed : value.Keyed) (within : value.Within trail inner) :
    (value.wire path).find? trail.names = some (inner.wire (path ++ trail.names)) := by
  induction within generalizing path with
  | here => simp [Trail.names,find?]
  | @inside value i name child rest inner placed next ih =>
    have folder : ∀ f, value ≠ .file f := by
      rintro f rfl
      simp [children] at placed
    have names : ((value.children.map (wireChild path)).map (·.1)).Nodup := by
      rw [List.map_map]
      exact keyed.childrenNodup
    have stands : (value.children.map (wireChild path))[i]? =
        some (name,child.wire (path ++ [name])) := by
      simp [placed,wireChild]
    have found : (child.wire (path ++ [name])).find? (Trail.names rest) =
        some (inner.wire (path ++ [name] ++ Trail.names rest)) :=
      ih (keyed.child (List.mem_of_getElem? placed))
    simp only [Trail.names,List.map_cons,find?,wireChildren folder,lastOfEachSame names,
      lookupAt names stands]
    simpa [Trail.names] using found

end BotGateway.Value
