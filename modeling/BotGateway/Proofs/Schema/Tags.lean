import BotGateway.Proofs.Schema.Nested

/-! How a set judges a value. Whatever the value is, the set takes it or says why not, unless it has to
show a tag that has no document form. -/
namespace BotGateway

namespace Value

def isName : Value → Bool
  | .text _ | .float _ | .bool _ | .null => true
  | .int n => !Numeral.isLong n
  | _ => false

def isNest : Value → Bool
  | .list _ | .tuple _ | .map _ => true
  | _ => false

inductive Showable : Value → Prop where
  | single {value : Value} (single : value.isNest = false) (short : value.hasLongInteger = false) :
      Showable value
  | list {items : List Value} (each : ∀ item ∈ items, Showable item) : Showable (.list items)
  | tuple {items : List Value} (each : ∀ item ∈ items, Showable item) : Showable (.tuple items)
  | map {entries : List (Value × Value)} (named : ∀ entry ∈ entries, entry.1.isName = true)
      (each : ∀ entry ∈ entries, Showable entry.2) : Showable (.map entries)

def Shown (value : Value) : Prop := ∃ json, value.toJson true = .ok json

theorem nameShown (key : Value) : (∃ name, key.keyText = .ok name) ↔ key.isName = true := by
  cases key with
  | int n => cases long : Numeral.isLong n <;> simp [keyText,isName,long]
  | _ => simp [keyText,isName]

theorem itemsShown (items : List Value) :
    (∃ jsons, toJsonItems true items = .ok jsons) ↔ ∀ item ∈ items, item.Shown := by
  induction items with
  | nil => simp [toJsonItems]
  | cons item rest ih =>
    rw [List.forall_mem_cons,← ih,toJsonItems]
    constructor
    · rintro ⟨_,written⟩
      obtain ⟨json,first,written⟩ := exceptOk.mp written
      obtain ⟨jsons,later,_⟩ := exceptOk.mp written
      exact ⟨⟨json,first⟩,jsons,later⟩
    · rintro ⟨⟨json,first⟩,jsons,later⟩
      rw [first,later]
      exact ⟨json :: jsons,rfl⟩

theorem entriesShown (entries : List (Value × Value)) :
    (∃ members, toJsonEntries true entries = .ok members) ↔
      (∀ entry ∈ entries, entry.1.isName = true) ∧ ∀ entry ∈ entries, entry.2.Shown := by
  induction entries with
  | nil => simp [toJsonEntries]
  | cons entry rest ih =>
    rw [List.forall_mem_cons,List.forall_mem_cons,← nameShown,and_and_and_comm,← ih,toJsonEntries]
    constructor
    · rintro ⟨_,written⟩
      obtain ⟨name,named,written⟩ := exceptOk.mp written
      obtain ⟨json,first,written⟩ := exceptOk.mp written
      obtain ⟨members,later,_⟩ := exceptOk.mp written
      exact ⟨⟨⟨name,named⟩,json,first⟩,members,later⟩
    · rintro ⟨⟨⟨name,named⟩,json,first⟩,members,later⟩
      rw [named,first,later]
      exact ⟨(name,json) :: members,rfl⟩

theorem arrayShown {items : List Value} :
    (∃ json, (do return Json.array (← toJsonItems true items)) = Except.ok (ε := Unwritable) json) ↔
      ∀ item ∈ items, item.Shown := by
  rw [← itemsShown]
  cases toJsonItems true items <;> simp [bind,Except.bind,pure,Except.pure]

theorem objectShown {entries : List (Value × Value)} :
    (∃ json, (do return Json.object (← toJsonEntries true entries)) = Except.ok (ε := Unwritable) json) ↔
      (∀ entry ∈ entries, entry.1.isName = true) ∧ ∀ entry ∈ entries, entry.2.Shown := by
  rw [← entriesShown]
  cases toJsonEntries true entries <;> simp [bind,Except.bind,pure,Except.pure]

namespace Showable

theorem ofList {items : List Value} : (Value.list items).Showable ↔ ∀ item ∈ items, item.Showable := by
  refine ⟨fun showable => ?_,.list⟩
  cases showable with
  | single nest => cases nest
  | list each => exact each

theorem ofTuple {items : List Value} : (Value.tuple items).Showable ↔ ∀ item ∈ items, item.Showable := by
  refine ⟨fun showable => ?_,.tuple⟩
  cases showable with
  | single nest => cases nest
  | tuple each => exact each

theorem ofMap {entries : List (Value × Value)} : (Value.map entries).Showable ↔
    (∀ entry ∈ entries, entry.1.isName = true) ∧ ∀ entry ∈ entries, entry.2.Showable := by
  refine ⟨fun showable => ?_,fun ⟨named,each⟩ => .map named each⟩
  cases showable with
  | single nest => cases nest
  | map named each => exact ⟨named,each⟩

theorem alone {value : Value} (single : value.isNest = false) :
    value.Showable ↔ value.hasLongInteger = false := by
  refine ⟨fun showable => ?_,.single single⟩
  cases showable with
  | single _ short => exact short
  | list | tuple | map => cases single

end Showable

theorem shownExactly (value : Value) : value.Shown ↔ value.Showable := by
  induction value using byContents with
  | step value items pairs =>
    cases value with
    | list own =>
      rw [Shown,toJson,arrayShown,Showable.ofList]
      exact forall₂_congr items
    | tuple own =>
      rw [Shown,toJson,arrayShown,Showable.ofTuple]
      exact forall₂_congr items
    | map own =>
      rw [Shown,toJson,objectShown,Showable.ofMap]
      exact and_congr_right fun _ => forall₂_congr pairs
    | int n =>
      rw [Showable.alone rfl,Shown,toJson,hasLongInteger]
      cases Numeral.isLong n <;> simp
    | null | bool | float | text =>
      rw [Showable.alone rfl]
      exact ⟨fun _ => rfl,fun _ => ⟨_,rfl⟩⟩
    | _ =>
      rw [Showable.alone rfl,Shown]
      simp only [toJson,Bool.not_true,Bool.false_eq_true,if_false]
      split
      · rename_i long
        simp [long]
      · rename_i short
        simp [short]

end Value
namespace VariantSet

def tagIn (set : VariantSet) (entries : List (Value × Value)) : Value :=
  (Value.entry? set.field entries).getD .null

def Lists (set : VariantSet) (entries : List (Value × Value)) (kind : RecordKind) : Prop :=
  ∃ tag, Value.entry? set.field entries = some (.text tag) ∧ set.variants.lookup tag = some kind

structure Judges (set : VariantSet) (value : Value) : Prop where
  ends : (∃ result, set.decode value = .ok result ∧ set.Resolves value result) ∨
    ∃ failure, set.decode value = .error failure ∧
      (failure.kind = .decode ∨ failure.kind = .unknownVariant)
  unlisted : ∀ entries, value = .map entries → (∀ kind, ¬set.Lists entries kind) →
    ∃ json, (set.tagIn entries).toJson true = .ok json ∧ set.decode value =
      .error (.unknownTag set.name set.field (set.tagIn entries) (json.write Json.spaced))
  other : (∀ entries, value ≠ .map entries) →
    set.decode value = .error (.notObject set.name value.typeName)
  unfit : ∀ entries kind report, value = .map entries → set.Lists entries kind →
    (Shape.record kind).validate value = .error (.invalid report) →
      set.decode value = .error (.badVariant set.name kind.name report)

/-- No tag has to be shown that has no document form, be it the value's own or one within a record of
the kind that the own one stands for. -/
structure Legible (set : VariantSet) (value : Value) : Prop where
  own : ∀ entries, value = .map entries → (∀ kind, ¬set.Lists entries kind) →
    (set.tagIn entries).Showable
  within : ∀ entries kind typeName, value = .map entries → set.Lists entries kind →
    Meeting.first? (value.meetings (.record kind)) ≠ some (.unwritable (.key typeName))

section Listed
variable {set : VariantSet} {entries : List (Value × Value)} {kind : RecordKind}

theorem kindListed : set.kindOf? (set.tagIn entries) = some kind ↔ set.Lists entries kind := by
  rw [Lists,tagIn]
  cases Value.entry? set.field entries with
  | none => simp [kindOf?]
  | some tag => cases tag <;> simp [kindOf?]

theorem decodeUnlisted (unlisted : ∀ kind, ¬set.Lists entries kind) :
    set.decode (.map entries) = .error (set.unknown (set.tagIn entries)) := by
  have unknown : set.kindOf? (set.tagIn entries) = none :=
    Option.eq_none_iff_forall_ne_some.mpr fun kind known => unlisted kind (kindListed.mp known)
  rw [decode,build,peek,← tagIn]
  simp only [bind,Except.bind,resolve,unknown]

theorem decodeListed (listed : set.Lists entries kind) : set.decode (.map entries) =
    match (Value.map entries).check (.record kind) with
    | .accepted result => .ok result.value
    | .rejected issues => .error (.badVariant set.name kind.name ⟨kind.name,issues⟩)
    | .aborted failure => .error failure := by
  have known := kindListed.mpr listed
  rw [decode,build,peek,← tagIn]
  simp only [bind,Except.bind,resolve,known]
  rfl

theorem Lists.unique {other : RecordKind} (listed : set.Lists entries kind)
    (again : set.Lists entries other) : other = kind := by
  have known := kindListed.mpr listed
  rw [kindListed.mpr again] at known
  exact Option.some.inj known

theorem abortedHow {failure : Failure} (ended : (Value.map entries).check (.record kind) = .aborted failure) :
    Meeting.first? ((Value.map entries).meetings (.record kind)) = some failure ∧
      (failure.kind = .decode ∨ failure.kind = .unknownVariant ∨
        ∃ typeName, failure = .unwritable (.key typeName)) := by
  have first := (Value.map entries).ordered (.record kind) rfl
  rw [ended] at first
  obtain ⟨meeting,_,failed⟩ := List.exists_of_findSome?_eq_some first.symm
  exact ⟨first.symm,Meeting.failsHow failed⟩

theorem judgesListed (listed : set.Lists entries kind) (within : ∀ typeName,
    Meeting.first? ((Value.map entries).meetings (.record kind)) ≠ some (.unwritable (.key typeName))) :
    set.Judges (.map entries) := by
  have decoded := decodeListed listed
  refine ⟨?_,?_,fun absent => absurd rfl (absent entries),?_⟩
  · cases checked : (Value.map entries).check (.record kind) with
    | accepted result =>
      rw [checked] at decoded
      exact .inl ⟨result.value,decoded,decodedResolves decoded⟩
    | rejected issues =>
      rw [checked] at decoded
      exact .inr ⟨_,decoded,.inl rfl⟩
    | aborted failure =>
      rw [checked] at decoded
      obtain ⟨first,decode | unknown | ⟨typeName,rfl⟩⟩ := abortedHow checked
      · exact .inr ⟨failure,decoded,.inl decode⟩
      · exact .inr ⟨failure,decoded,.inr unknown⟩
      · exact absurd first (within typeName)
  · rintro _ ⟨⟩ unlisted
    exact absurd listed (unlisted kind)
  · rintro _ other report ⟨⟩ again invalid
    obtain rfl := listed.unique again
    rw [Shape.validate] at invalid
    cases checked : (Value.map entries).check (.record other) with
    | accepted =>
      rw [checked] at invalid
      cases invalid
    | rejected issues =>
      rw [checked] at decoded invalid
      cases invalid
      exact decoded
    | aborted failure =>
      -- what ends a check is never a report of its own
      rw [checked] at invalid
      cases invalid
      obtain ⟨_,how⟩ := abortedHow checked
      simp [Failure.kind] at how

theorem judgesUnlisted (unlisted : ∀ kind, ¬set.Lists entries kind)
    (showable : (set.tagIn entries).Showable) : set.Judges (.map entries) := by
  obtain ⟨json,written⟩ := (Value.shownExactly _).mpr showable
  have decoded := decodeUnlisted unlisted
  rw [unknown,written] at decoded
  refine ⟨.inr ⟨_,decoded,.inr rfl⟩,?_,fun absent => absurd rfl (absent entries),?_⟩
  · rintro _ ⟨⟩ _
    exact ⟨json,written,decoded⟩
  · rintro _ kind _ ⟨⟩ listed
    exact absurd listed (unlisted kind)

end Listed

section Judged
variable {set : VariantSet} {value : Value}

theorem judgesOther (other : ∀ entries, value ≠ .map entries) : set.Judges value := by
  have decoded : set.decode value = .error (.notObject set.name value.typeName) := by
    cases value with
    | map entries => exact absurd rfl (other entries)
    | _ => rfl
  exact ⟨.inr ⟨_,decoded,.inl rfl⟩,fun entries same => absurd same (other entries),fun _ => decoded,
    fun entries _ _ same => absurd same (other entries)⟩

theorem Legible.judges (legible : set.Legible value) : set.Judges value := by
  by_cases mapping : ∃ entries, value = .map entries
  · obtain ⟨entries,rfl⟩ := mapping
    by_cases listed : ∃ kind, set.Lists entries kind
    · obtain ⟨kind,listed⟩ := listed
      exact judgesListed listed fun typeName => legible.within entries kind typeName rfl listed
    · have unlisted := not_exists.mp listed
      exact judgesUnlisted unlisted (legible.own entries rfl unlisted)
  · exact judgesOther (not_exists.mp mapping)

theorem legibleOf (clean : ∀ cause, set.decode value ≠ .error (.unwritable cause)) :
    set.Legible value := by
  constructor
  · rintro entries rfl unlisted
    rw [← Value.shownExactly]
    have decoded := decodeUnlisted unlisted
    rw [unknown] at decoded
    cases written : (set.tagIn entries).toJson true with
    | ok json => exact ⟨json,written⟩
    | error cause =>
      rw [written] at decoded
      exact absurd decoded (clean cause)
  · rintro entries kind typeName rfl listed first
    have ended : ((Value.map entries).check (.record kind)).failure? =
        some (.unwritable (.key typeName)) := (Value.ordered _ (.record kind) rfl).trans first
    have decoded := decodeListed listed
    cases checked : (Value.map entries).check (.record kind) with
    | aborted failure =>
      rw [checked] at ended decoded
      cases ended
      exact clean _ decoded
    | accepted | rejected =>
      rw [checked] at ended
      cases ended

theorem Judges.clean (judges : set.Judges value) (cause : Value.Unwritable) :
    set.decode value ≠ .error (.unwritable cause) := by
  intro escaped
  obtain ⟨result,taken,_⟩ | ⟨failure,refused,among⟩ := judges.ends
  · rw [escaped] at taken
    cases taken
  · rw [escaped] at refused
    cases refused
    cases cause <;> simp [Failure.kind] at among

end Judged

theorem judgesExactly (set : VariantSet) (value : Value) :
    (set.Judges value ↔ set.Legible value) ∧
      (¬set.Legible value → ∃ cause, set.decode value = .error (.unwritable cause)) := by
  refine ⟨⟨fun judges => legibleOf judges.clean,Legible.judges⟩,fun illegible => ?_⟩
  by_contra clean
  exact illegible (legibleOf (not_exists.mp clean))

theorem unshownTagEscapes :
    let value : Value := .map [(.text "status",.map [(.tuple [.int 1,.int 2],.int 3)])]
    VariantSet.chatMember.decode value = .error (.unwritable (.key "tuple")) ∧
      (Failure.unwritable (.key "tuple")).kind = .type ∧ ¬VariantSet.chatMember.Judges value :=
  ⟨rfl,rfl,fun judges => judges.clean (.key "tuple") rfl⟩

end VariantSet
end BotGateway
