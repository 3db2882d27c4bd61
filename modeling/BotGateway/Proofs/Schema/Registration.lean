import BotGateway.Proofs.Schema.Tags

/-! Histories of a set that kinds are registered with, one after the other. Whatever is done in between,
the set knows the kinds that were accepted, each by its tag, and decodes into nothing else. -/
namespace BotGateway

namespace RecordKind

def default? (kind : RecordKind) (field : Text) : Option Text :=
  match (kind.fields.find? (·.name == field)).bind (·.default) with
  | some (.text tag) => some tag
  | _ => none

theorem defaultField {kind : RecordKind} {name tag : Text} (default : kind.default? name = some tag) :
    ∃ field, kind.fields.find? (·.name == name) = some field ∧ field.default = some (.text tag) := by
  rw [default?] at default
  split at default
  · rename_i found
    cases default
    exact Option.bind_eq_some_iff.mp found
  · cases default

theorem defaultShape {kind : RecordKind} {field : Field} {tag : Text} (among : field ∈ kind.fields)
    (default : field.default = some (.text tag)) : field.shape = .text ∨ field.shape = .constant tag := by
  by_cases wire : kind.isWire = true
  · have regular := List.all_eq_true.mp (wireRegular wire) field among
    rw [Field.isRegular,default] at regular
    split at regular
    · rename_i other
      cases other
    · rename_i shape same
      cases same
      exact .inr (beq_iff_eq.mp regular ▸ shape)
    · rename_i other
      cases other
    · rename_i other
      cases other
    · cases regular
  · cases kind with
    | envelope =>
      have none : ∀ field ∈ RecordKind.envelope.fields, ∀ tag, field.default ≠ some (.text tag) := by
        simp [fields,Field.required,Field.optional]
      exact absurd default (none field among tag)
    | custom name fields =>
      obtain ⟨named,_,rfl⟩ := List.mem_map.mp among
      exact .inl rfl
    | _ => exact absurd rfl wire

theorem firstField {fields : List Field} {values : List Value} {R : Field → Value → Prop}
    (related : List.Forall₂ R fields values) {name : Text} {field : Field}
    (found : fields.find? (·.name == name) = some field) :
    ∃ value, ((fields.map (·.name)).zip values).lookup name = some value ∧ R field value := by
  induction related with
  | nil => cases found
  | @cons first value fields values relates _ ih =>
    rw [List.find?_cons] at found
    rw [List.map_cons,List.zip_cons_cons,List.lookup_cons]
    by_cases own : first.name == name
    · rw [own] at found
      cases found
      rw [BEq.comm,own]
      exact ⟨value,rfl,relates⟩
    · rw [Bool.not_eq_true _ |>.mp own] at found
      rw [BEq.comm,Bool.not_eq_true _ |>.mp own]
      exact ih found

theorem tagTaken {kind : RecordKind} {entries : List (Value × Value)} {name tag : Text} {result : Value}
    (default : kind.default? name = some tag) (tagged : Value.entry? name entries = some (.text tag))
    (takes : ((Value.map entries).check (.record kind)).Takes result) : result.field name = .text tag := by
  have each : ∀ field ∈ kind.fields, (field.check (Value.map entries).parts.entries).1.Explained := by
    intro field among
    refine Field.checkExplained fun entry member => ?_
    obtain ⟨pair,_,rfl⟩ := List.mem_map.mp member
    exact Value.explained pair.2 field.shape (kind.unionsPlain field among)
  rw [Value.checkOpened] at takes
  obtain ⟨values,rfl,taken⟩ := built each takes
  obtain ⟨field,found,shown⟩ := defaultField default
  obtain rfl : field.name = name := by simpa using List.find?_some found
  obtain ⟨own,placed,ownTakes⟩ := firstField taken found
  have given : field.given? entries = some (.text tag) := by rw [Field.given?,tagged,Option.some_or]
  rw [Field.checkGiven,Value.parts,Field.givenMapped,Value.pairs,given] at ownTakes
  obtain ⟨accepted,conforms,rfl⟩ := Verdict.takenUnder ownTakes
  have kept : accepted.value = .text tag := by
    rw [Value.checkOpened] at conforms
    rcases defaultShape (List.mem_of_find?_eq_some found) shown with text | constant
    · rw [text] at conforms
      cases conforms
      rfl
    · have same : Value.isKey tag (.text tag) = true := beq_self_eq_true tag
      rw [constant,Value.conform,if_pos same] at conforms
      cases conforms
      rfl
  rw [Value.field,placed,kept]
  rfl

end RecordKind

structure Registry where
  set : VariantSet
  copies : List (List (Text × RecordKind))
  calls : List (RecordKind × Option Failure)
  decoded : List (Value × Except Failure Value)

namespace Registry

inductive Deed where
  | register (kind : RecordKind)
  | decode (value : Value)
  | list
  | edit (place : Nat) (change : List (Text × RecordKind) → List (Text × RecordKind))

def fresh (name field : Text) : Registry := ⟨⟨name,field,[]⟩,[],[],[]⟩

def step (registry : Registry) : Deed → Registry
  | .register kind =>
    match registry.set.register kind with
    | .ok set => {registry with set,calls := registry.calls ++ [(kind,none)]}
    | .error failure => {registry with calls := registry.calls ++ [(kind,some failure)]}
  | .decode value =>
    {registry with decoded := registry.decoded ++ [(value,registry.set.decode value)]}
  | .list => {registry with copies := registry.copies ++ [registry.set.variants]}
  | .edit place change => {registry with copies := registry.copies.modify place change}

def run (registry : Registry) (deeds : List Deed) : Registry := deeds.foldl step registry

def accepted (calls : List (RecordKind × Option Failure)) : List RecordKind :=
  (calls.filter (·.2.isNone)).map (·.1)

structure Answers (name field : Text) (others : List RecordKind) (kind : RecordKind)
    (told : Option Failure) : Prop where
  untagged : told = some (.noTagDefault kind.name field) ↔ kind.default? field = none
  taken : ∀ tag, told = some (.tagTaken name tag) ↔
    kind.default? field = some tag ∧ ∃ other ∈ others, other.default? field = some tag
  accepted : told = none ↔
    ∃ tag, kind.default? field = some tag ∧ ∀ other ∈ others, other.default? field ≠ some tag
  fails : ∀ failure, told = some failure → failure.kind = .type ∨ failure.kind = .value

def Carries (field : Text) (kinds : List RecordKind) (value result : Value) : Prop :=
  ∃ entries tag kind fields, value = .map entries ∧ Value.entry? field entries = some (.text tag) ∧
    kind ∈ kinds ∧ kind.default? field = some tag ∧ result = .record kind fields ∧
      result.field field = .text tag

structure Kept (name field : Text) (registry : Registry) : Prop where
  named : registry.set.name = name ∧ registry.set.field = field
  lists : registry.set.variants.map (·.2) = accepted registry.calls
  tagged : ∀ entry ∈ registry.set.variants, entry.2.default? field = some entry.1
  distinct : (registry.set.variants.map (·.1)).Nodup
  answers : ∀ before kind told after, registry.calls = before ++ (kind,told) :: after →
    Answers name field (accepted before) kind told
  decodes : ∀ value result, (value,.ok result) ∈ registry.decoded →
    Carries field (accepted registry.calls) value result

section Kept
variable {name field : Text} {registry : Registry}

theorem acceptedNew (calls : List (RecordKind × Option Failure)) (kind : RecordKind) :
    accepted (calls ++ [(kind,none)]) = accepted calls ++ [kind] := by
  simp [accepted]

theorem acceptedSame (calls : List (RecordKind × Option Failure)) (kind : RecordKind) (failure : Failure) :
    accepted (calls ++ [(kind,some failure)]) = accepted calls := by
  simp [accepted]

theorem Kept.known (kept : registry.Kept name field) (tag : Text) (kind : RecordKind) :
    registry.set.variants.lookup tag = some kind ↔
      kind ∈ accepted registry.calls ∧ kind.default? field = some tag := by
  rw [← kept.lists]
  constructor
  · intro found
    obtain ⟨before,after,same,_⟩ := List.lookup_eq_some_iff.mp found
    have among : (tag,kind) ∈ registry.set.variants := by simp [same]
    exact ⟨List.mem_map_of_mem among,kept.tagged _ among⟩
  · rintro ⟨among,default⟩
    obtain ⟨⟨own,_⟩,listed,rfl⟩ := List.mem_map.mp among
    obtain rfl : own = tag := Option.some.inj ((kept.tagged _ listed).symm.trans default)
    obtain ⟨i,placed⟩ := List.mem_iff_getElem?.mp listed
    exact Value.lookupAt kept.distinct placed

theorem Kept.tagTaken (kept : registry.Kept name field) (tag : Text) :
    (registry.set.variants.lookup tag).isSome = true ↔
      ∃ other ∈ accepted registry.calls, other.default? field = some tag := by
  rw [Option.isSome_iff_exists]
  exact exists_congr fun other => kept.known tag other

theorem Kept.told (kept : registry.Kept name field) {kind : RecordKind} {told : Option Failure}
    (answers : Answers name field (accepted registry.calls) kind told) :
    ∀ before other outcome after, registry.calls ++ [(kind,told)] = before ++ (other,outcome) :: after →
      Answers name field (accepted before) other outcome := by
  intro before other outcome after same
  obtain rfl | ⟨inner,last,rfl⟩ := after.eq_nil_or_concat
  · obtain ⟨rfl,⟨⟩⟩ := List.append_inj' same rfl
    exact answers
  · rw [List.concat_eq_append,← List.cons_append,← List.append_assoc] at same
    exact kept.answers before other outcome inner (List.append_inj' same rfl).1

theorem registerOpened (set : VariantSet) (kind : RecordKind) : set.register kind =
    match kind.default? set.field with
    | none => .error (.noTagDefault kind.name set.field)
    | some tag =>
      if (set.variants.lookup tag).isSome then .error (.tagTaken set.name tag)
      else .ok {set with variants := set.variants ++ [(tag,kind)]} := by
  rw [VariantSet.register,RecordKind.default?]
  cases (kind.fields.find? (·.name == set.field)).bind (·.default) with
  | none => rfl
  | some value => cases value <;> rfl

theorem Kept.refused (kept : registry.Kept name field) {kind : RecordKind} {failure : Failure}
    (answers : Answers name field (accepted registry.calls) kind (some failure)) :
    Kept name field {registry with calls := registry.calls ++ [(kind,some failure)]} where
  named := kept.named
  lists := (acceptedSame registry.calls kind failure).symm ▸ kept.lists
  tagged := kept.tagged
  distinct := kept.distinct
  answers := kept.told answers
  decodes := by
    rw [acceptedSame]
    exact kept.decodes

theorem Carries.more {kinds : List RecordKind} {value result : Value} (carries : Carries field kinds value result)
    (kind : RecordKind) : Carries field (kinds ++ [kind]) value result := by
  obtain ⟨entries,tag,own,fields,shape,tagged,among,rest⟩ := carries
  exact ⟨entries,tag,own,fields,shape,tagged,List.mem_append_left _ among,rest⟩

theorem Kept.added (kept : registry.Kept name field) {kind : RecordKind} {tag : Text}
    (default : kind.default? field = some tag) (free : registry.set.variants.lookup tag = none)
    (answers : Answers name field (accepted registry.calls) kind none) :
    Kept name field {registry with
      set := {registry.set with variants := registry.set.variants ++ [(tag,kind)]}
      calls := registry.calls ++ [(kind,none)]} where
  named := kept.named
  lists := by
    rw [acceptedNew,← kept.lists]
    exact List.map_append
  tagged := List.forall_mem_append.mpr ⟨kept.tagged,List.forall_mem_singleton.mpr default⟩
  distinct := by
    rw [List.map_append,List.nodup_append]
    refine ⟨kept.distinct,List.pairwise_singleton _ _,?_⟩
    rintro own listed _ last rfl
    obtain ⟨entry,among,rfl⟩ := List.mem_map.mp listed
    have different := List.lookup_eq_none_iff.mp free entry among
    simp [show entry.1 = tag from List.mem_singleton.mp last] at different
  answers := kept.told answers
  decodes := by
    rw [acceptedNew]
    exact fun value result decoded => (kept.decodes value result decoded).more kind

end Kept

section Answers
variable {name field tag : Text} {others : List RecordKind} {kind : RecordKind}

theorem Answers.untaggedTold (default : kind.default? field = none) :
    Answers name field others kind (some (.noTagDefault kind.name field)) where
  untagged := by simp [default]
  taken := by simp [default]
  accepted := by simp [default]
  fails := by
    rintro _ ⟨⟩
    exact .inl rfl

theorem Answers.takenTold (default : kind.default? field = some tag)
    (taken : ∃ other ∈ others, other.default? field = some tag) :
    Answers name field others kind (some (.tagTaken name tag)) where
  untagged := by simp [default]
  taken := fun tag => by
    rw [default]
    constructor
    · rintro ⟨⟩
      exact ⟨rfl,taken⟩
    · rintro ⟨⟨⟩,_⟩
      rfl
  accepted := by
    obtain ⟨other,among,same⟩ := taken
    simp only [reduceCtorEq,default,false_iff]
    rintro ⟨_,⟨⟩,free⟩
    exact free other among same
  fails := by
    rintro _ ⟨⟩
    exact .inr rfl

theorem Answers.newTold (default : kind.default? field = some tag)
    (free : ∀ other ∈ others, other.default? field ≠ some tag) : Answers name field others kind none where
  untagged := by simp [default]
  taken := fun other => by
    simp only [reduceCtorEq,default,false_iff]
    rintro ⟨⟨⟩,other,among,same⟩
    exact free other among same
  accepted := ⟨fun _ => ⟨tag,default,free⟩,fun _ => rfl⟩
  fails := by
    rintro _ ⟨⟩

end Answers

section Runs
variable {name field : Text} {registry : Registry}

theorem Kept.registered (kept : registry.Kept name field) (kind : RecordKind) :
    Kept name field (registry.step (.register kind)) := by
  obtain ⟨rfl,rfl⟩ := kept.named
  rw [step,registerOpened]
  cases default : kind.default? registry.set.field with
  | none => exact kept.refused (.untaggedTold default)
  | some tag =>
    have taken := kept.tagTaken tag
    dsimp only
    cases found : registry.set.variants.lookup tag with
    | some other =>
      rw [found] at taken
      exact kept.refused (.takenTold default (taken.mp rfl))
    | none =>
      rw [found] at taken
      refine kept.added default found (.newTold default fun other among same => ?_)
      cases taken.mpr ⟨other,among,same⟩

theorem Kept.carries (kept : registry.Kept name field) {value result : Value}
    (decoded : registry.set.decode value = .ok result) :
    Carries field (accepted registry.calls) value result := by
  obtain ⟨rfl,rfl⟩ := kept.named
  cases VariantSet.decodedResolves decoded with
  | @variant entries tag kind fields tagged listed =>
    obtain ⟨among,default⟩ := (kept.known tag kind).mp listed
    rw [VariantSet.decodeListed ⟨tag,tagged,listed⟩] at decoded
    have takes : ((Value.map entries).check (.record kind)).Takes (.record kind fields) := by
      split at decoded
      · rename_i accepted checked
        exact ⟨accepted,checked,Except.ok.inj decoded⟩
      · cases decoded
      · cases decoded
    exact ⟨entries,tag,kind,fields,rfl,tagged,among,default,rfl,RecordKind.tagTaken default tagged takes⟩

theorem Kept.step (kept : registry.Kept name field) (deed : Deed) : (registry.step deed).Kept name field := by
  cases deed with
  | register kind => exact kept.registered kind
  | decode value =>
    refine ⟨kept.named,kept.lists,kept.tagged,kept.distinct,kept.answers,fun other result member => ?_⟩
    rcases List.mem_append.mp member with earlier | now
    · exact kept.decodes other result earlier
    · obtain ⟨rfl,same⟩ := Prod.mk.inj (List.mem_singleton.mp now)
      exact kept.carries same.symm
  | list | edit =>
    exact ⟨kept.named,kept.lists,kept.tagged,kept.distinct,kept.answers,kept.decodes⟩

theorem keptRun (name field : Text) (deeds : List Deed) : ((fresh name field).run deeds).Kept name field := by
  have all {registry : Registry} (kept : registry.Kept name field) : (registry.run deeds).Kept name field := by
    induction deeds generalizing registry with
    | nil => exact kept
    | cons deed rest ih => exact ih (kept.step deed)
  refine all ⟨⟨rfl,rfl⟩,rfl,by simp [fresh],.nil,?_,by simp [fresh]⟩
  rintro (_ | ⟨_,_⟩) kind told after ⟨⟩

end Runs

structure Faithful (name field : Text) (registry : Registry) : Prop where
  named : registry.set.name = name ∧ registry.set.field = field
  answers : ∀ before kind told after, registry.calls = before ++ (kind,told) :: after →
    Answers name field (accepted before) kind told
  resolves : ∀ value kind, registry.set.resolve value = .ok kind ↔
    ∃ tag, value = .text tag ∧ kind ∈ accepted registry.calls ∧ kind.default? field = some tag
  lists : registry.set.variants.map (·.2) = accepted registry.calls
  tagged : ∀ entry ∈ registry.set.variants, entry.2.default? field = some entry.1
  decodes : ∀ value result, (value,.ok result) ∈ registry.decoded →
    Carries field (accepted registry.calls) value result

theorem runFaithful (name field : Text) (deeds : List Deed) :
    ((fresh name field).run deeds).Faithful name field := by
  have kept := keptRun name field deeds
  refine ⟨kept.named,kept.answers,fun value kind => ?_,kept.lists,kept.tagged,kept.decodes⟩
  constructor
  · intro resolved
    obtain ⟨tag,rfl,listed⟩ := VariantSet.resolved resolved
    exact ⟨tag,rfl,(kept.known tag kind).mp listed⟩
  · rintro ⟨tag,rfl,accepted⟩
    rw [VariantSet.resolve,VariantSet.kindOf?,(kept.known tag kind).mpr accepted]

end Registry
end BotGateway
