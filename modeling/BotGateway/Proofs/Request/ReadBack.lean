import BotGateway.Proofs.Request.Restored
import BotGateway.Proofs.Text.Utf8

/-! The body of a record's request, read as that record. Both readers of documents take the body: the
one of a record kind by its limit on nesting, the one of a set of variants by its choice of encoding. -/
namespace BotGateway
open Value

namespace Json
variable {members : List (Text × Json)}

theorem writtenStart (members : List (Text × Json)) :
    ∃ c rest, (object members).write compact = ('{' : CodePoint) :: c :: rest ∧ (c = '"' ∨ c = '}') := by
  cases members with
  | nil => exact ⟨_,_,rfl,.inr rfl⟩
  | cons member rest =>
    cases rest with
    | nil => exact ⟨_,_,rfl,.inl rfl⟩
    | cons => exact ⟨_,_,rfl,.inl rfl⟩

theorem objectDetected (encodable : Utf8.Encodable ((object members).write compact)) :
    Wide.decodeDetected? (Utf8.bytesOf ((object members).write compact)) =
      some ((object members).write compact) := by
  have read : Utf8.decodeFrom true none (Utf8.bytesOf _) = some _ := Utf8.decodeBytesOf encodable
  obtain ⟨c,rest,start,second⟩ := writtenStart members
  rw [start] at read ⊢
  rw [← read]
  rcases second with rfl | rfl
  · rfl
  · rfl

theorem objectTolerated (lasting : Lasting (object members))
    (encodable : Utf8.Encodable ((object members).write compact)) :
    ofTolerantBytes? (Utf8.bytesOf ((object members).write compact)) = some (object members) := by
  rw [ofTolerantBytes?,objectDetected encodable,Option.bind_some]
  exact readWritten compactPlain lasting (by rintro _ ⟨⟩)

theorem objectStrict (lasting : Lasting (object members))
    (encodable : Utf8.Encodable ((object members).write compact))
    (shallow : ∀ depth ∈ strict.depth, levels (object members) ≤ depth) :
    ofStrictBytes? (Utf8.bytesOf ((object members).write compact)) = some (object members) := by
  rw [ofStrictBytes?,Utf8.decode?,Utf8.decodeBytesOf encodable,Option.bind_some]
  exact readWritten compactPlain lasting shallow

end Json

namespace Payload
open Json Prepared

variable {kind : RecordKind} {fields : List (Text × Value)} {boundary : Text} {scene : Scene Shelf}
  {payload : Payload}

structure SentMembers (kind : RecordKind) (fields : List (Text × Value)) (payload : Payload)
    (members : List (Text × Json)) : Prop where
  written : (Value.record kind fields).writtenMembers [] = .ok members
  encodable : Utf8.Encodable ((object members).write compact)
  body : payload.body = Utf8.bytesOf ((object members).write compact)
  restores : (object members).Restores (.record kind) (.record kind fields)

theorem SentMembers.tolerated {members : List (Text × Json)}
    (sent : SentMembers kind fields payload members) :
    ofTolerantBytes? payload.body = some (object members) := by
  rw [sent.body]
  exact objectTolerated sent.restores.lasting sent.encodable

theorem recordSent (wire : kind.isWire = true) (built : Built (.record kind fields))
    (fileless : (Value.record kind fields).Fileless)
    (sent : encoded boundary (.record kind fields) scene = .ok payload) :
    ∃ members, SentMembers kind fields payload members := by
  have remote : ∀ trail f, (Value.record kind fields).Within trail (.file f) → f.isLocal = false :=
    fun trail f within => absurd within (fileless trail f)
  obtain ⟨_,_,members,written,sendable,body⟩ := (aloneSome (withoutFiles rfl remote)).mp sent
  rw [wiredWithoutFiles rfl remote] at written
  exact ⟨members,written,(writeObjectEncodable members).mpr sendable,body,
    (built.fits wire).restored wire fileless (recordWritten.mpr ⟨members,written,rfl⟩)⟩

/-- A record that came out of validation and holds no files is read back from its request as it was:
as a record of its kind, if that reader allows for the nesting, and by every set it is a variant of. -/
theorem recordReadBack (wire : kind.isWire = true) (built : Built (.record kind fields))
    (fileless : (Value.record kind fields).Fileless)
    (sent : encoded boundary (.record kind fields) scene = .ok payload)
    (shallow : ∀ json ∈ ofTolerantBytes? payload.body, ∀ depth ∈ strict.depth, levels json ≤ depth) :
    Envelope.readRecord kind payload.body = .ok (.record kind fields) ∧
    ∀ set ∈ VariantSet.builtin, ∀ tag, (tag,kind) ∈ set.variants →
      set.decodeDocument payload.body = .ok (.record kind fields) := by
  obtain ⟨members,sent⟩ := recordSent wire built fileless sent
  constructor
  · rw [Envelope.readRecord,sent.body,
      objectStrict sent.restores.lasting sent.encodable (shallow _ sent.tolerated)]
    exact takesValid sent.restores.taken
  · intro set builtin tag variant
    rw [VariantSet.decodeDocument,sent.tolerated]
    exact (VariantSet.builtinShows builtin variant).rebuilt (built.fits wire) sent.written sent.restores

def boldFields : List (Text × Value) := [("type",.text "bold"),("offset",.int 0),("length",.int 2),
  ("url",.null),("user",.null),("language",.null),("custom_emoji_id",.null)]

def photoFields : List (Text × Value) := [("type",.text "photo"),("media",.text "12"),
  ("caption",.text "hi"),("parse_mode",.null),
  ("caption_entities",.list [.record .messageEntity boldFields]),("has_spoiler",.null)]

theorem photoBuilt : Built (.record .mediaPhoto photoFields) := by
  -- its integers are given as a truth value and as text
  have bold : Built (.map [(.text "type",.text "bold"),(.text "offset",.bool false),
      (.text "length",.text "2")]) := by
    refine .map ?_
    simp only [List.forall_mem_cons,List.not_mem_nil,false_imp_iff,implies_true,and_true]
    exact ⟨.text _,.bool _,.text _⟩
  have given : Built (.map [(.text "media",.text "12"),(.text "caption",.text "hi"),
      (.text "caption_entities",.tuple [.map [(.text "type",.text "bold"),
        (.text "offset",.bool false),(.text "length",.text "2")]])]) := by
    refine .map ?_
    simp only [List.forall_mem_cons,List.not_mem_nil,false_imp_iff,implies_true,and_true]
    exact ⟨.text _,.text _,.tuple (by simpa using bold)⟩
  exact .record given rfl

theorem photoFileless : (Value.record .mediaPhoto photoFields).Fileless := by
  have text (t : Text) : (Value.text t).Fileless :=
    .below (by rintro _ ⟨⟩) (by simp [children,Value.members])
  have int (n : Int) : (Value.int n).Fileless :=
    .below (by rintro _ ⟨⟩) (by simp [children,Value.members])
  have bold : (Value.record .messageEntity boldFields).Fileless := by
    refine .below (by rintro _ ⟨⟩) ?_
    change ∀ child ∈ [(("type" : Text),Value.text "bold"),("offset",.int 0),("length",.int 2)], _
    simp only [List.forall_mem_cons,List.not_mem_nil,false_imp_iff,implies_true,and_true]
    exact ⟨text _,int _,int _⟩
  have entities : (Value.list [.record .messageEntity boldFields]).Fileless := by
    refine .below (by rintro _ ⟨⟩) ?_
    change ∀ child ∈ [(Numeral.ofNat 0,Value.record .messageEntity boldFields)], _
    simpa using bold
  refine .below (by rintro _ ⟨⟩) ?_
  change ∀ child ∈ [(("type" : Text),Value.text "photo"),("media",.text "12"),("caption",.text "hi"),
    ("caption_entities",.list [.record .messageEntity boldFields])], _
  simp only [List.forall_mem_cons,List.not_mem_nil,false_imp_iff,implies_true,and_true]
  exact ⟨text _,text _,text _,entities⟩

theorem photoReadBack : ∃ payload,
    encoded "B" (.record .mediaPhoto photoFields) ⟨.empty,[]⟩ = .ok payload ∧
    Envelope.readRecord .mediaPhoto payload.body = .ok (.record .mediaPhoto photoFields) ∧
    VariantSet.inputMedia.decodeDocument payload.body = .ok (.record .mediaPhoto photoFields) := by
  obtain ⟨payload,sent⟩ : ∃ payload,
      encoded "B" (.record .mediaPhoto photoFields) ⟨.empty,[]⟩ = .ok payload := ⟨_,rfl⟩
  have shallow : ∀ json ∈ ofTolerantBytes? payload.body, ∀ depth ∈ strict.depth, levels json ≤ depth := by
    obtain ⟨members,goesOut⟩ := recordSent rfl photoBuilt photoFileless sent
    have written := goesOut.written
    rw [goesOut.tolerated]
    cases written
    rintro _ ⟨⟩ _ ⟨⟩
    decide
  obtain ⟨record,variant⟩ := recordReadBack rfl photoBuilt photoFileless sent shallow
  exact ⟨payload,sent,record,variant _ (by decide) "photo" (by decide)⟩

end Payload
end BotGateway
