import BotGateway.Proofs.Envelope
import BotGateway.Proofs.Schema.Variants

/-! Variants within messages. What a set makes of a value stands at its place of the record, and what a
set refuses a value with is what the check of the message ends with, for the first such place. -/
namespace BotGateway

namespace Value

mutual

theorem shownUnless {cause : Unwritable} (value : Value) (failed : value.toJson true = .error cause) :
    cause = .longInteger ∨ ∃ typeName, cause = .key typeName := by
  cases value with
  | int n =>
    rw [toJson] at failed
    split at failed <;> cases failed
    exact .inl rfl
  | list items | tuple items =>
    rw [toJson] at failed
    obtain inner | ⟨_,_,⟨⟩⟩ := exceptError.mp failed
    exact itemsShownUnless items inner
  | map entries =>
    rw [toJson] at failed
    obtain inner | ⟨_,_,⟨⟩⟩ := exceptError.mp failed
    exact entriesShownUnless entries inner
  | null | bool | float | text => cases failed
  | _ =>
    simp only [toJson,Bool.not_true,Bool.false_eq_true,if_false] at failed
    split at failed
    · cases failed
      exact .inl rfl
    · cases failed

theorem itemsShownUnless {cause : Unwritable} (items : List Value)
    (failed : toJsonItems true items = .error cause) :
    cause = .longInteger ∨ ∃ typeName, cause = .key typeName := by
  cases items with
  | nil => cases failed
  | cons item rest =>
    rw [toJsonItems] at failed
    obtain first | ⟨_,_,failed⟩ := exceptError.mp failed
    · exact shownUnless item first
    · obtain later | ⟨_,_,⟨⟩⟩ := exceptError.mp failed
      exact itemsShownUnless rest later

theorem entriesShownUnless {cause : Unwritable} (entries : List (Value × Value))
    (failed : toJsonEntries true entries = .error cause) :
    cause = .longInteger ∨ ∃ typeName, cause = .key typeName := by
  match entries with
  | [] => cases failed
  | (key,value) :: rest =>
    rw [toJsonEntries] at failed
    obtain named | ⟨_,_,failed⟩ := exceptError.mp failed
    · unfold keyText at named
      repeat' split at named
      all_goals cases named
      · exact .inl rfl
      · exact .inr ⟨_,rfl⟩
    · obtain first | ⟨_,_,failed⟩ := exceptError.mp failed
      · exact shownUnless value first
      · obtain later | ⟨_,_,⟨⟩⟩ := exceptError.mp failed
        exact entriesShownUnless rest later

end

def reach : Value → List Step → Option Value
  | value,[] => some value
  | .record _ fields,.field name :: rest => (fields.lookup name).bind (·.reach rest)
  | .list items,.index i :: rest => items[i]?.bind (·.reach rest)
  | _,_ => none

end Value

def Meeting.KeptIn (result : Value) (meeting : Meeting) : Prop :=
  ∃ kept, result.reach meeting.path = some kept ∧ meeting.set.coerce meeting.value = .ok kept

namespace Value

theorem explained (value : Value) (shape : Shape) (plain : shape.unionsPlain = true) :
    (value.check shape).Explained := by
  rw [checkOpened]
  cases shape with
  | boolean | integer | text => exact (Verdict.scalarConcludes _ _).explained
  | anything => trivial
  | constant | always =>
    rw [conform]
    split
    · trivial
    · rfl
  | optional shape =>
    rw [conform]
    split
    · trivial
    · rw [← checkOpened]
      exact explained value shape plain
  | listOf shape =>
    unfold conform
    split <;> first | exact Verdict.ofGatheredExplained _ _ | rfl
  | record kind =>
    unfold conform
    split
    · exact RecordKind.buildExplained
    · split
      · trivial
      · rfl
    · rfl
  | file => exact (conformPlain rfl).explained
  | oneOf members =>
    simp only [Shape.unionsPlain,Bool.and_eq_true,Bool.not_eq_true',List.isEmpty_eq_false_iff] at plain
    exact (conformUnion plain.1 (List.all_eq_true.mp plain.2)).explained
  | tagged set =>
    rw [← checkOpened,taggedChecked,Verdict.ofCoerced.eq_def]
    split
    · trivial
    · rfl
    · trivial

end Value

namespace RecordKind

theorem namesDiffer (kind : RecordKind) :
    (kind.fields.map (·.name)).Nodup ∨ ∀ field ∈ kind.fields, field.shape = .text := by
  by_cases wire : kind.isWire = true
  · exact .inl (wireNames wire).1
  · cases kind with
    | envelope => exact .inl (by decide +kernel)
    | custom name fields =>
      refine .inr fun field among => ?_
      obtain ⟨named,_,rfl⟩ := List.mem_map.mp among
      rfl
    | _ => exact absurd rfl wire

end RecordKind

namespace Value

theorem keptItem {value item result : Value} {shape : Shape} {inner : Meeting} {i : Nat}
    (plain : shape.unionsPlain = true) (placed : value.contents[i]? = some item)
    (kept : ∀ own, (item.check shape).Takes own → inner.KeptIn own)
    (takes : (value.check (.listOf shape)).Takes result) : (inner.under (.index i)).KeptIn result := by
  have gathered : (Verdict.ofGathered .list (Verdict.gather ((value.contents.map check).mapIdx
      fun i check => (check shape).under (.index i)))).Takes result := by
    rw [checkOpened] at takes
    cases value with
    | list | tuple | set => exact takes
    | _ => cases placed
  have each : ∀ verdict ∈ (value.contents.map check).mapIdx fun i check => (check shape).under (.index i),
      verdict.Explained := by
    intro verdict member
    obtain ⟨i,bound,rfl⟩ := List.mem_mapIdx.mp member
    rw [List.getElem_map]
    exact Verdict.underExplained _ (explained _ shape plain)
  obtain ⟨values,rfl,taken⟩ := Verdict.ofGatheredTaken each gathered
  have checked : ((value.contents.map check).mapIdx fun i check => (check shape).under (.index i))[i]? =
      some ((item.check shape).under (.index i)) := by
    rw [List.getElem?_mapIdx,List.getElem?_map,placed]
    rfl
  obtain ⟨own,there,ownTakes⟩ := relatedAt taken checked
  obtain ⟨made,reached,coerced⟩ := kept own (Verdict.takenUnder ownTakes)
  refine ⟨made,?_,coerced⟩
  rw [Meeting.under,reach,there]
  exact reached

theorem keptField {value given result : Value} {kind : RecordKind} {field : Field} {inner : Meeting}
    (listed : field ∈ kind.fields) (found : field.given? value.pairs = some given)
    (differ : (kind.fields.map (·.name)).Nodup)
    (kept : ∀ own, (given.check field.shape).Takes own → inner.KeptIn own)
    (takes : (value.check (.record kind)).Takes result) :
    (inner.under (.field field.name)).KeptIn result := by
  have built : (kind.build value.parts.entries).Takes result := by
    rw [checkOpened] at takes
    cases value with
    | map => exact takes
    | _ => cases found
  have each : ∀ field ∈ kind.fields, (field.check value.parts.entries).1.Explained := by
    intro field among
    refine Field.checkExplained fun entry member => ?_
    obtain ⟨pair,_,rfl⟩ := List.mem_map.mp member
    exact explained pair.2 field.shape (kind.unionsPlain field among)
  obtain ⟨values,rfl,taken⟩ := RecordKind.built each built
  obtain ⟨i,placed⟩ := List.mem_iff_getElem?.mp listed
  obtain ⟨own,there,ownTakes⟩ := relatedAt taken placed
  rw [Field.checkGiven,parts,Field.givenMapped,found] at ownTakes
  obtain ⟨made,reached,coerced⟩ := kept own (Verdict.takenUnder ownTakes)
  have named : (kind.fields.map (·.name))[i]? = some field.name := by
    rw [List.getElem?_map,placed]
    rfl
  refine ⟨made,?_,coerced⟩
  rw [Meeting.under,reach,zipLookup differ (by simpa using taken.length_eq) named there]
  exact reached

theorem Meets.kept {value : Value} {shape : Shape} {meeting : Meeting} (meets : Meets value shape meeting)
    (plain : shape.unionsPlain = true) {result : Value} (takes : (value.check shape).Takes result) :
    meeting.KeptIn result := by
  induction meets generalizing result with
  | here value set =>
    rw [taggedChecked] at takes
    exact ⟨result,rfl,Verdict.coercedTaken takes⟩
  | optional given _ ih =>
    rw [checkOpened,conform,given] at takes
    rw [← checkOpened] at takes
    exact ih plain takes
  | @item value item shape _ _ placed _ ih =>
    have inside : shape.unionsPlain = true := plain
    exact keptItem inside placed (fun own => ih inside) takes
  | @field value given kind field inner listed found meets ih =>
    rcases kind.namesDiffer with differ | texts
    · exact keptField listed found differ (fun own => ih (kind.unionsPlain field listed)) takes
    · rw [texts field listed] at meets
      cases meets

end Value
namespace RecordKind

/-- How the variants within a message decide its check. A place counts as failed unless its value is
decoded, or shows a tag too long for a numeral; the first failure comes out as it is. -/
structure Carries (kind : RecordKind) (message : Value) : Prop where
  places : ∀ meeting, meeting ∈ message.meetings (.record kind) ↔ message.Meets (.record kind) meeting
  kept : ∀ result, (Shape.record kind).validate message = .ok result →
    ∀ meeting ∈ message.meetings (.record kind), meeting.KeptIn result
  first : ∀ before meeting after failure, message.meetings (.record kind) = before ++ meeting :: after →
    (∀ earlier ∈ before, earlier.failure? = none) → meeting.failure? = some failure →
      (Shape.record kind).validate message = .error failure
  ends : ∀ meeting ∈ message.meetings (.record kind), ∀ failure, meeting.failure? = some failure →
    failure.kind = .decode ∨ failure.kind = .unknownVariant ∨
      ∃ typeName, failure = .unwritable (.key typeName)
  otherwise : (∀ meeting ∈ message.meetings (.record kind), meeting.failure? = none) →
    ∀ failure, (Shape.record kind).validate message = .error failure → ∃ report, failure = .invalid report

end RecordKind

namespace Meeting

theorem failsHow {meeting : Meeting} {failure : Failure} (fails : meeting.failure? = some failure) :
    failure.kind = .decode ∨ failure.kind = .unknownVariant ∨
      ∃ typeName, failure = .unwritable (.key typeName) := by
  obtain ⟨failed,short⟩ := failsCoerced.mp fails
  have settles := meeting.value.checkSettles Value.inheritedTrivial trivial (.tagged meeting.set)
  rw [Value.taggedChecked,failed,Verdict.ofCoercedOther short] at settles
  cases settles with
  | notObject | badVariant => exact .inl rfl
  | @unknown set tag =>
    rw [VariantSet.unknown] at short ⊢
    cases shown : tag.toJson true with
    | ok json => exact .inr (.inl rfl)
    | error cause =>
      rw [shown] at short
      rcases tag.shownUnless shown with rfl | ⟨typeName,rfl⟩
      · exact absurd rfl short
      · exact .inr (.inr ⟨typeName,rfl⟩)

end Meeting

namespace RecordKind

theorem carries (kind : RecordKind) (message : Value) : kind.Carries message := by
  have ordered : (message.check (.record kind)).failure? =
      Meeting.first? (message.meetings (.record kind)) := message.ordered (.record kind) rfl
  refine ⟨message.meetingsMeet (.record kind),fun result valid meeting member => ?_,
    fun before meeting after failure same clean fails => ?_,fun meeting _ failure => Meeting.failsHow,
    fun clean failure failed => ?_⟩
  · exact ((message.meetingsMeet _ meeting).mp member).kept rfl (Value.validTakes valid)
  · have found : Meeting.first? (message.meetings (.record kind)) = some failure :=
      List.findSome?_eq_some_iff.mpr ⟨before,meeting,after,same,fails,clean⟩
    exact Shape.validateEnded (ordered.trans found)
  · have absent : Meeting.first? (message.meetings (.record kind)) = none :=
      List.findSome?_eq_none_iff.mpr clean
    exact Shape.validateReports (ordered.trans absent) failed

end RecordKind

theorem Meeting.documentFails {raw : Bytes} {json : Json} (read : Json.ofStrictBytes? raw = some json)
    {shape : Shape} {meeting : Meeting} (member : meeting ∈ (Value.ofJson json).meetings shape)
    {failure : Failure} (failed : meeting.set.coerce meeting.value = .error failure) :
    VariantSet.Refuses failure ∧ meeting.failure? = some failure := by
  have meets := (Value.meetingsMeet _ shape meeting).mp member
  have inside : meeting.value.Read := meets.inherits Value.readInherited ⟨json,Json.strictShort read,rfl⟩
  have refuses : VariantSet.Refuses failure := by
    rw [VariantSet.coerce] at failed
    split at failed
    · cases failed
    · exact VariantSet.decodeFails inside failed
  refine ⟨refuses,Meeting.failsCoerced.mpr ⟨failed,?_⟩⟩
  rintro rfl
  cases refuses

theorem VariantSet.decodesWithin (set : VariantSet) (value : Value) (kind : RecordKind) (message : Value) :
    set.Fares value ∧ kind.Carries message ∧
      ∀ (raw : Bytes) (json : Json), Json.ofStrictBytes? raw = some json →
        Envelope.readRecord kind raw = (Shape.record kind).validate (.ofJson json) ∧
          ∀ meeting ∈ (Value.ofJson json).meetings (.record kind), ∀ failure,
            meeting.set.coerce meeting.value = .error failure →
              VariantSet.Refuses failure ∧ meeting.failure? = some failure := by
  refine ⟨set.fares value,kind.carries message,fun raw json read => ⟨?_,?_⟩⟩
  · rw [Envelope.readRecord,read]
  · exact fun meeting member failure failed => Meeting.documentFails read member failed

def Value.reacted (chat old new : Value) : Value :=
  .map [(.text "chat",chat),(.text "message_id",.int 5),(.text "date",.int 0),
    (.text "old_reaction",.list [old]),(.text "new_reaction",.list [new])]

def Value.reaction (tag : Value) : Value := .map [(.text "type",tag)]

def Meeting.oldReaction (tag : Value) : Meeting :=
  ⟨[.field "old_reaction",.index 0],.reactionType,.reaction tag⟩

def Meeting.newReaction (tag : Value) : Meeting :=
  ⟨[.field "new_reaction",.index 0],.reactionType,.reaction tag⟩

theorem VariantSet.unlistedReaction :
    (Shape.record .messageReactionUpdated).validate
        (.reacted .null (.reaction (.text "paid")) (.reaction (.text "nope"))) =
      .error (.unknownTag "ReactionType" "type" (.text "nope") (Json.quote "nope")) := by
  have paid : (Meeting.oldReaction (.text "paid")).failure? = none := rfl
  obtain ⟨_,carries,_⟩ := VariantSet.decodesWithin .reactionType (.reaction (.text "nope"))
    .messageReactionUpdated (.reacted .null (.reaction (.text "paid")) (.reaction (.text "nope")))
  exact carries.first [.oldReaction (.text "paid")] (.newReaction (.text "nope")) [] _ rfl
    (List.forall_mem_singleton.mpr paid) rfl

/-- A tag with a key that no document has ends the check as such, and hides that the tag after it is
not one of the set. -/
theorem VariantSet.unshownTagHides :
    let tag : Value := .map [(.tuple [.int 1,.int 2],.int 3)]
    let chat : Value := .map [(.text "id",.int 1),(.text "type",.text "private")]
    let message : Value := .reacted chat (.reaction tag) (.reaction (.text "nope"))
    message.meetings (.record .messageReactionUpdated) =
        [.oldReaction tag,.newReaction (.text "nope")] ∧
      VariantSet.reactionType.decode (.reaction tag) = .error (.unwritable (.key "tuple")) ∧
      VariantSet.reactionType.decode (.reaction (.text "nope")) =
        .error (.unknownTag "ReactionType" "type" (.text "nope") (Json.quote "nope")) ∧
      (Shape.record .messageReactionUpdated).validate message = .error (.unwritable (.key "tuple")) :=
  ⟨rfl,rfl,rfl,rfl⟩

end BotGateway
