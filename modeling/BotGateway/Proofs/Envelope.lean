import BotGateway.Envelope
import BotGateway.Proofs.Json.Short
import BotGateway.Proofs.Schema.Untagged

/-! Decoding of answers. A body that is no envelope is refused as such, and the result of an envelope,
whatever its type, is decoded or refused: by a report, by a set of variants, or as a tag that a set
does not know, which can always be named. -/
namespace BotGateway
open Value (Read readInherited)

namespace Envelope
variable {raw : Bytes} {envelope : Envelope} {failure : Failure}

theorem fieldsUntagged : ∀ field ∈ RecordKind.envelope.fields, field.shape.Untagged := by
  have parameters : (Shape.record .responseParameters).Untagged := by
    refine .record ?_
    simp only [RecordKind.fields,List.forall_mem_cons,List.not_mem_nil,false_imp_iff,implies_true,
      and_true]
    exact ⟨.optional .integer,.optional .integer⟩
  simp only [RecordKind.fields,List.forall_mem_cons,List.not_mem_nil,false_imp_iff,implies_true,
    and_true]
  exact ⟨.boolean,.anything,.optional .integer,.optional .text,.optional parameters⟩

theorem decodeFails (failed : decode raw = .error failure) :
    ∃ report, failure = .badEnvelope report := by
  rw [decode] at failed
  split at failed
  · cases failed
  · cases failed
    exact ⟨_,rfl⟩
  · rename_i other reported ended
    rw [readRecord] at ended
    split at ended
    · cases ended
      exact absurd rfl (reported _)
    · obtain ⟨report,rfl⟩ := (Shape.Untagged.record fieldsUntagged).validateFails ended
      exact absurd rfl (reported _)

theorem anythingTaken {name : Text} {default value : Value} {given : List (Value × Value)}
    (takes : ((⟨name,.anything,some default⟩ : Field).check (Value.checkEntries given)).1.Takes value) :
    value = default ∨ ∃ entry ∈ given, value = entry.2 := by
  unfold Field.check at takes
  split at takes
  · rename_i key check found
    obtain ⟨entry,member,rfl⟩ := Field.foundAmong found
    obtain ⟨original,among,same⟩ := Value.entriesChecked member
    obtain ⟨result,accepted,rfl⟩ := Verdict.takenUnder takes
    obtain ⟨parts,conforms⟩ := original.2.checkConforms
    rw [same,conforms,Value.conform] at accepted
    cases accepted
    exact .inr ⟨original,among,rfl⟩
  · obtain ⟨result,accepted,rfl⟩ := takes
    cases accepted
    exact .inl rfl

theorem resultOf (first result : Value) (rest : List Value) :
    (ofRecord (.record .envelope ((RecordKind.envelope.fields.map (·.name)).zip
      (first :: result :: rest)))).result = result := rfl

def Spells (raw : Bytes) (record : Value) : Prop :=
  ∃ json, Json.ofStrictBytes? raw = some json ∧
    (Shape.record .envelope).validate (.ofJson json) = .ok record

theorem decodedSpells :
    decode raw = .ok envelope ↔ ∃ record, Spells raw record ∧ envelope = ofRecord record := by
  rw [decode,readRecord]
  constructor
  · intro decoded
    split at decoded
    · rename_i record validated
      cases decoded
      split at validated
      · cases validated
      · rename_i json read
        exact ⟨record,⟨json,read,validated⟩,rfl⟩
    · cases decoded
    · cases decoded
  · rintro ⟨record,⟨json,read,validated⟩,rfl⟩
    rw [read]
    dsimp only
    rw [validated]

theorem fieldsExplained (given : List (Value × Value)) :
    ∀ field ∈ RecordKind.envelope.fields,
      (field.check (Value.checkEntries given)).1.Explained := by
  intro field among
  refine Field.checkExplained fun entry member => ?_
  obtain ⟨original,_,same⟩ := Value.entriesChecked member
  rw [same]
  exact ((fieldsUntagged field among).concludes original.2).explained

theorem decodedRead (decoded : decode raw = .ok envelope) : envelope.result.Read := by
  obtain ⟨record,⟨json,read,validated⟩,rfl⟩ := decodedSpells.mp decoded
  have takes := Value.validTakes validated
  cases Json.strictShort read with
  | @object members short =>
    obtain ⟨values,rfl,taken⟩ := RecordKind.built (fieldsExplained _) takes
    rw [RecordKind.fields] at taken
    cases taken with
    | cons _ later =>
      cases later with
      | cons second _ =>
        rw [resultOf]
        rcases anythingTaken second with rfl | ⟨entry,among,rfl⟩
        · exact readInherited.null
        · exact readInherited.map ⟨.object members,.object short,rfl⟩ entry among
  | _ =>
    obtain ⟨_,⟨⟩,_⟩ := takes

end Envelope

inductive VariantSet.Refuses : Failure → Prop where
  | notObject (set : VariantSet) (typeName : Text) : Refuses (.notObject set.name typeName)
  | unknownTag (set : VariantSet) {tag : Value} {json : Json} (written : tag.toJson true = .ok json) :
      Refuses (.unknownTag set.name set.field tag (json.write Json.spaced))
  | badVariant (set : VariantSet) (kind : Text) (report : Report) :
      Refuses (.badVariant set.name kind report)

inductive ResultType.Refuses : ResultType → Value → Failure → Prop where
  | misfit {shape : Shape} {result : Value} {report : Report}
      (failed : shape.validate result = .error (.invalid report)) :
      Refuses (.shaped shape) result (.badResult (ResultType.name shape) report)
  | inside {shape : Shape} {result : Value} {failure : Failure}
      (failed : shape.validate result = .error failure) (refuses : VariantSet.Refuses failure) :
      Refuses (.shaped shape) result failure
  | variant {set : VariantSet} {result : Value} {failure : Failure}
      (failed : set.decode result = .error failure) (refuses : VariantSet.Refuses failure) :
      Refuses (.variant set) result failure
  | notArray {set : VariantSet} {result : Value} (other : ∀ items, result ≠ .list items) :
      Refuses (.variants set) result (.notArray set.name result.typeName)
  | item {set : VariantSet} {items : List Value} {item : Value} {failure : Failure}
      (among : item ∈ items) (failed : set.decode item = .error failure)
      (refuses : VariantSet.Refuses failure) : Refuses (.variants set) (.list items) failure

section Results
variable {failure : Failure}

theorem VariantSet.refusesKind (refuses : VariantSet.Refuses failure) :
    failure.kind = .decode ∨ failure.kind = .unknownVariant := by
  cases refuses with
  | notObject | badVariant => exact .inl rfl
  | unknownTag => exact .inr rfl

theorem ResultType.refusesKind {type : ResultType} {result : Value}
    (refuses : type.Refuses result failure) :
    failure.kind = .decode ∨ failure.kind = .unknownVariant := by
  cases refuses with
  | misfit | notArray => exact .inl rfl
  | inside _ refuses | variant _ refuses | item _ _ refuses => exact VariantSet.refusesKind refuses

theorem VariantSet.unknownRefuses (set : VariantSet) {tag : Value} (read : tag.Read) :
    VariantSet.Refuses (set.unknown tag) := by
  obtain ⟨json,short,rfl⟩ := read
  have written : (Value.ofJson json).toJson true = .ok json := Value.shortWritten short
  rw [VariantSet.unknown,written]
  exact .unknownTag set written

theorem VariantSet.endsRefuse (ends : VariantSet.Ends Read failure) :
    VariantSet.Refuses failure := by
  cases ends with
  | notObject set typeName => exact .notObject set typeName
  | unknown set among => exact set.unknownRefuses among
  | badVariant set kind report => exact .badVariant set kind report

theorem VariantSet.decodeFails {set : VariantSet} {value : Value} (read : value.Read)
    (failed : set.decode value = .error failure) : VariantSet.Refuses failure := by
  have built : ∃ entries, (∀ entry ∈ entries, Checker.Settles Read entry.2) ∧
      set.build value entries = .error failure := by
    unfold VariantSet.decode at failed
    split at failed
    · rename_i given
      exact ⟨_,Value.checkEntriesSettle readInherited given (readInherited.map read),failed⟩
    · exact ⟨[],nofun,failed⟩
  obtain ⟨entries,settle,failed⟩ := built
  obtain ⟨tag,among,rfl⟩ | ends := VariantSet.buildFails readInherited read settle failed
  · exact set.unknownRefuses among
  · exact VariantSet.endsRefuse ends

theorem mapMFails {α β ε : Type} {f : α → Except ε β} {items : List α} {e : ε}
    (failed : items.mapM f = .error e) : ∃ item ∈ items, f item = .error e := by
  induction items with
  | nil => cases failed
  | cons item rest ih =>
    rw [List.mapM_cons] at failed
    rcases exceptError.mp failed with first | ⟨_,_,failed⟩
    · exact ⟨item,List.mem_cons_self,first⟩
    · rcases exceptError.mp failed with later | ⟨_,_,⟨⟩⟩
      obtain ⟨other,among,later⟩ := ih later
      exact ⟨other,List.mem_cons_of_mem _ among,later⟩

theorem VariantSet.decodeManyFails {set : VariantSet} {value : Value} (read : value.Read)
    (failed : set.decodeMany value = .error failure) :
    (ResultType.variants set).Refuses value failure := by
  unfold VariantSet.decodeMany at failed
  split at failed
  · obtain ⟨item,among,failed⟩ := mapMFails failed
    exact .item among failed (VariantSet.decodeFails (readInherited.list read item among) failed)
  · rename_i other
    cases failed
    exact .notArray other

theorem Envelope.resultFails {envelope : Envelope} {type : ResultType} (read : envelope.result.Read)
    (failed : envelope.decodeResult type = .error failure) :
    type.Refuses envelope.result failure := by
  cases type with
  | untyped => cases failed
  | variant set => exact .variant failed (VariantSet.decodeFails read failed)
  | variants set =>
    rw [Envelope.decodeResult] at failed
    cases many : set.decodeMany envelope.result with
    | ok items =>
      rw [many] at failed
      cases failed
    | error cause =>
      rw [many] at failed
      cases failed
      exact VariantSet.decodeManyFails read many
  | shaped shape =>
    rw [Envelope.decodeResult] at failed
    split at failed
    · rename_i report invalid
      cases failed
      exact .misfit invalid
    · rename_i other reported
      obtain ⟨report,rfl⟩ | ends := Shape.validateFails readInherited read failed
      · exact absurd failed (reported report)
      · exact .inside failed (VariantSet.endsRefuse ends)

end Results

namespace Envelope
variable {raw : Bytes} {type : ResultType}

inductive Refuses (raw : Bytes) (type : ResultType) : Failure → Prop where
  | noEnvelope (report : Report) (spellsNone : ∀ record, ¬ Spells raw record) :
      Refuses raw type (.badEnvelope report)
  | result {record : Value} {failure : Failure} (spells : Spells raw record)
      (refuses : type.Refuses (ofRecord record).result failure) : Refuses raw type failure

theorem refusesKind {failure : Failure} (refuses : Refuses raw type failure) :
    failure.kind = .decode ∨ failure.kind = .unknownVariant := by
  cases refuses with
  | noEnvelope => exact .inl rfl
  | result _ refuses => exact ResultType.refusesKind refuses

theorem decodedOrRefused (raw : Bytes) (type : ResultType) :
    (∃ value, (decode raw >>= (decodeResult · type)) = .ok value) ∨
      ∃ failure, (decode raw >>= (decodeResult · type)) = .error failure ∧
        Refuses raw type failure ∧ (failure.kind = .decode ∨ failure.kind = .unknownVariant) := by
  cases ended : decode raw >>= (decodeResult · type) with
  | ok value => exact .inl ⟨value,rfl⟩
  | error failure =>
    have refuses : Refuses raw type failure := by
      rcases exceptError.mp ended with failed | ⟨envelope,decoded,failed⟩
      · obtain ⟨report,rfl⟩ := decodeFails failed
        refine .noEnvelope report fun record spells => ?_
        have decoded := decodedSpells.mpr ⟨record,spells,rfl⟩
        cases failed.symm.trans decoded
      · have refuses := resultFails (decodedRead decoded) failed
        obtain ⟨record,spells,rfl⟩ := decodedSpells.mp decoded
        exact .result spells refuses
    exact .inr ⟨failure,rfl,refuses,refusesKind refuses⟩

end Envelope
end BotGateway
