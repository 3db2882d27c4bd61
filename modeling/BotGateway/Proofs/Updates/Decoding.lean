import BotGateway.Proofs.Action
import BotGateway.Proofs.Except
import BotGateway.Proofs.Json.Short
import BotGateway.Proofs.Json.Written
import BotGateway.Proofs.Schema.Endings
import BotGateway.Proofs.Schema.Gathered
import BotGateway.Proofs.Text.Utf8
import BotGateway.Updates.Webhook

/-! One update decoded in two ways: as the body of a webhook request, and as the only result of an
answer to polling. Both ways give the same update or fail alike, for every text that spells a
document, well formed as an update or not. -/
namespace BotGateway.WebhookUpdates

def answer (raw : Bytes) : Bytes := ascii "\x7b\"ok\":true,\"result\":[" ++ (raw ++ ascii "]\x7d")

def polled (raw : Bytes) : Except Failure Value := do
  (← Envelope.decode (answer raw)).decodeResult (.shaped (.listOf (.record .update)))

inductive Alike : Except Failure Value → Except Failure Value → Prop where
  | update (update : Value) : Alike (.ok update) (.ok (.list [update]))
  | unknown (set field : Text) (tag : Value) (shown : Text) :
      Alike (.error (.unknownTag set field tag shown)) (.error (.unknownTag set field tag shown))
  | refused {pushed polled : Failure} (push : pushed.kind = .decode) (poll : polled.kind = .decode) :
      Alike (.error pushed) (.error polled)

section Texts
open Json

def answerText (t : Text) : Text := "\x7b\"ok\":true,\"result\":[" ++ (t ++ "]\x7d")

def answerJson (json : Json) : Json := .object [("ok",.bool true),("result",.array [json])]

theorem answerSpelt {dialect : Dialect} {n : Nat} {t : Text} {meaning : Option Json}
    (spelt : Spelt dialect n t meaning) :
    Spelt dialect (n + 2) (answerText t) (meaning.map answerJson) := by
  let okPart : Labelled := memberPart compact [] [] ("ok",.bool true)
  let resultPart : Labelled := ⟨[],("result" : Text).flatMap escapeOne,some "result",[],
    enclosed '[' t ']',meaning.map fun json => .array [json]⟩
  have result : Spelt dialect (n + 1) resultPart.value resultPart.meaning := by
    have one := Spelt.items (List.cons_ne_nil (t,meaning) []) (by simpa using spelt)
    cases meaning <;> exact one
  have ok : Spelt dialect (n + 1) okPart.value okPart.meaning := .named (.tail _ (.head _))
  have sound : ∀ part ∈ [okPart,resultPart], part.Sound dialect := by
    simp only [List.forall_mem_cons,List.not_mem_nil,false_imp_iff,implies_true,and_true]
    exact ⟨⟨blankNil,quoteKey _ "ok",blankNil⟩,⟨blankNil,quoteKey _ "result",blankNil⟩⟩
  have parts : ∀ part ∈ [okPart,resultPart], Spelt dialect (n + 1) part.value part.meaning := by
    simp only [List.forall_mem_cons,List.not_mem_nil,false_imp_iff,implies_true,and_true]
    exact ⟨ok,result⟩
  have both := Spelt.members (List.cons_ne_nil okPart [resultPart]) sound parts
  have joined : answerText t =
      enclosed '{' (Text.join "," ([okPart,resultPart].map Labelled.text)) '}' := by
    have ends : t ++ ("]\x7d" : Text) = t ++ [(']' : CodePoint)] ++ [('}' : CodePoint)] := by
      rw [List.append_assoc]
      rfl
    rw [answerText,ends]
    rfl
  rw [joined]
  cases meaning <;> exact both

theorem answerRead {raw : Bytes} {t : Text} (read : Utf8.decode? raw = some t) :
    Utf8.decode? (answer raw) = some (answerText t) := by
  have before : Utf8.decode? (ascii "\x7b\"ok\":true,\"result\":[") =
      some "\x7b\"ok\":true,\"result\":[" := rfl
  have after : Utf8.decode? (ascii "]\x7d") = some "]\x7d" := rfl
  rw [Utf8.decode?] at read before after ⊢
  rw [answer,Utf8.decodeAppend before,Utf8.decodeAppend read,after]
  rfl

end Texts

theorem answerDecoded (json : Json) :
    (Shape.record .envelope).validate (.ofJson (answerJson json)) =
      .ok (.record .envelope [("ok",.bool true),("result",.list [.ofJson json]),("error_code",.null),
        ("description",.null),("parameters",.null)]) := by
  rfl

section Records
variable {kind : RecordKind}

theorem recordRejected {value : Value} {issues : List Issue}
    (rejected : value.check (.record kind) = .rejected issues) : issues.isEmpty = false := by
  have explained : (value.check (.record kind)).Explained := by
    cases value with
    | map entries => exact RecordKind.buildExplained
    | record own fields =>
      simp only [Value.check,Value.conform]
      split
      · trivial
      · rfl
    | _ => rfl
  rw [rejected] at explained
  exact explained

theorem aloneValidated (value : Value) :
    (Shape.listOf (.record kind)).validate (.list [value]) =
      match value.check (.record kind) with
      | .accepted found => .ok (.list [found.value])
      | .rejected issues => .error (.invalid ⟨(Shape.listOf (.record kind)).title,
          issues.map (·.under (.index 0))⟩)
      | .aborted failure => .error failure := by
  simp only [Shape.validate,Value.check,Value.conform,Value.checkItems,List.mapIdx_cons,
    List.mapIdx_nil]
  cases checked : value.check (.record kind) with
  | accepted found => rfl
  | aborted failure => rfl
  | rejected issues =>
    have filled := recordRejected checked
    cases issues with
    | nil => cases filled
    | cons issue rest => simp [Verdict.under,Verdict.gather,Verdict.ofGathered,bind,Except.bind,pure,Except.pure]

end Records

section Documents

def Documentary (value : Value) : Prop := ∃ json, value = .ofJson json

theorem documentaryItems {json : List Json} {item : Value}
    (member : item ∈ Value.ofJsonItems json) : Documentary item := by
  rw [Value.ofJsonItemsMapped] at member
  obtain ⟨json,_,rfl⟩ := List.mem_map.mp member
  exact ⟨json,rfl⟩

theorem documentaryMembers {json : List (Text × Json)} {entry : Value × Value}
    (member : entry ∈ Value.ofJsonMembers json) : Documentary entry.2 := by
  rw [Value.ofJsonMembersMapped] at member
  obtain ⟨json,_,rfl⟩ := List.mem_map.mp member
  exact ⟨json.2,rfl⟩

theorem documentaryInherited : Value.Inherited Documentary where
  null := ⟨.null,rfl⟩
  list := by
    rintro items ⟨json,same⟩ item member
    cases json <;> cases same
    exact documentaryItems member
  tuple := by
    rintro items ⟨json,same⟩
    cases json <;> cases same
  set := by
    rintro items ⟨json,same⟩
    cases json <;> cases same
  map := by
    rintro entries ⟨json,same⟩ entry member
    cases json <;> cases same
    exact documentaryMembers member

mutual

theorem rewrittenFails {cause : Value.Unwritable} (json : Json)
    (failed : (Value.ofJson json).toJson true = .error cause) : cause = .longInteger := by
  cases json with
  | null | bool | float | text => simp [Value.ofJson,Value.toJson] at failed
  | int n =>
    simp only [Value.ofJson,Value.toJson] at failed
    split at failed <;> cases failed
    rfl
  | array items =>
    simp only [Value.ofJson,Value.toJson] at failed
    obtain inner | ⟨_,_,done⟩ := exceptError.mp failed
    · exact rewrittenItemsFail items inner
    · cases done
  | object members =>
    simp only [Value.ofJson,Value.toJson] at failed
    obtain inner | ⟨_,_,done⟩ := exceptError.mp failed
    · exact rewrittenMembersFail members inner
    · cases done

theorem rewrittenItemsFail {cause : Value.Unwritable} (items : List Json)
    (failed : Value.toJsonItems true (Value.ofJsonItems items) = .error cause) :
    cause = .longInteger := by
  cases items with
  | nil => cases failed
  | cons item rest =>
    simp only [Value.ofJsonItems,Value.toJsonItems] at failed
    obtain first | ⟨_,_,failed⟩ := exceptError.mp failed
    · exact rewrittenFails item first
    · obtain later | ⟨_,_,done⟩ := exceptError.mp failed
      · exact rewrittenItemsFail rest later
      · cases done

theorem rewrittenMembersFail {cause : Value.Unwritable} (members : List (Text × Json))
    (failed : Value.toJsonEntries true (Value.ofJsonMembers members) = .error cause) :
    cause = .longInteger := by
  match members with
  | [] => cases failed
  | (key,json) :: rest =>
    simp only [Value.ofJsonMembers,Value.toJsonEntries,Value.keyText] at failed
    obtain impossible | ⟨_,_,failed⟩ := exceptError.mp failed
    · cases impossible
    · obtain first | ⟨_,_,failed⟩ := exceptError.mp failed
      · exact rewrittenFails json first
      · obtain later | ⟨_,_,done⟩ := exceptError.mp failed
        · exact rewrittenMembersFail rest later
        · cases done

end

theorem endsDecoding {failure : Failure} (ends : VariantSet.Ends Documentary failure) :
    (∃ set field tag shown, failure = .unknownTag set field tag shown) ∨ failure.kind = .decode := by
  cases ends with
  | notObject | badVariant => exact .inr rfl
  | @unknown set tag among short =>
    obtain ⟨json,rfl⟩ := among
    unfold VariantSet.unknown at short ⊢
    cases written : (Value.ofJson json).toJson true with
    | ok json => exact .inl ⟨_,_,_,_,rfl⟩
    | error cause =>
      obtain rfl := rewrittenFails json written
      exact absurd (by rw [written]) short

end Documents

def Enclosable (raw : Bytes) : Prop :=
  ∃ n t meaning, Utf8.decode? raw = some t ∧ Json.Spelt Json.strict n t meaning ∧
    ∀ depth ∈ Json.strict.depth, n + 2 ≤ depth

theorem writtenEnclosable {json : Json} (lasting : Json.Lasting json)
    (encodable : Utf8.Encodable (json.write Json.compact))
    (room : ∀ depth ∈ Json.strict.depth, json.levels + 2 ≤ depth) :
    Enclosable (Utf8.bytesOf (json.write Json.compact)) := by
  have read : Utf8.decode? (Utf8.bytesOf (json.write Json.compact)) =
      some (json.write Json.compact) := Utf8.decodeBytesOf encodable
  have spelt := Json.writtenSpelt Json.compactPlain Json.strict lasting (Nat.le_refl _)
  exact ⟨_,_,_,read,spelt,room⟩

theorem enclosedRead {raw : Bytes} (enclosable : Enclosable raw) :
    Json.ofStrictBytes? (answer raw) = (Json.ofStrictBytes? raw).map answerJson := by
  obtain ⟨n,t,meaning,read,spelt,room⟩ := enclosable
  have alone : Json.ofStrictBytes? raw = meaning := by
    rw [Json.ofStrictBytes?,read,Option.bind_some]
    exact Json.readSpelt spelt fun depth allowed => (Nat.le_add_right n 2).trans (room depth allowed)
  rw [alone,Json.ofStrictBytes?,answerRead read,Option.bind_some]
  exact Json.readSpelt (answerSpelt spelt) room

theorem pushedEnds (path : Text) (raw : Bytes) (scene : Scene (UpdateQueue Value)) :
    ((decode path raw).perform scene).1 =
      match Envelope.readRecord .update raw with
      | .ok update => .ok update
      | .error (.invalid report) => .error (.badUpdate report)
      | .error failure => .error failure := by
  simp only [decode,Action.perform_bind,Action.perform_note]
  cases Envelope.readRecord .update raw with
  | ok update => rfl
  | error failure => cases failure <;> rfl

theorem polledEnds {raw : Bytes} {json : Json}
    (read : Json.ofStrictBytes? (answer raw) = some (answerJson json)) :
    polled raw = match (Shape.listOf (.record .update)).validate (.list [.ofJson json]) with
      | .error (.invalid report) =>
        .error (.badResult (ResultType.name (.listOf (.record .update))) report)
      | other => other := by
  have decoded : Envelope.decode (answer raw) = .ok ⟨true,.list [.ofJson json],none,none,none⟩ := by
    simp only [Envelope.decode,Envelope.readRecord,read,answerDecoded]
    rfl
  rw [polled,decoded]
  rfl

theorem refusedAlike {path : Text} {raw : Bytes} {scene : Scene (UpdateQueue Value)}
    (alone : Json.ofStrictBytes? raw = none) (enclosed : Json.ofStrictBytes? (answer raw) = none) :
    Alike ((decode path raw).perform scene).1 (polled raw) := by
  have poll : polled raw = .error (.badEnvelope ⟨RecordKind.name .envelope,[⟨[],.malformed⟩]⟩) := by
    simp only [polled,Envelope.decode,Envelope.readRecord,enclosed]
    rfl
  rw [pushedEnds,poll]
  simp only [Envelope.readRecord,alone]
  exact .refused rfl rfl

theorem decodedAlike {raw : Bytes} (enclosable : Enclosable raw) (path : Text)
    (scene : Scene (UpdateQueue Value)) :
    Alike ((decode path raw).perform scene).1 (polled raw) := by
  have enclosed := enclosedRead enclosable
  cases read : Json.ofStrictBytes? raw with
  | none =>
    rw [read] at enclosed
    exact refusedAlike read enclosed
  | some json =>
    rw [read] at enclosed
    rw [pushedEnds,polledEnds enclosed,aloneValidated]
    simp only [Envelope.readRecord,read,Shape.validate]
    have settles := (Value.ofJson json).checkSettles documentaryInherited ⟨json,rfl⟩ (.record .update)
    cases checked : (Value.ofJson json).check (.record .update) with
    | accepted found => exact .update found.value
    | rejected issues => exact .refused rfl rfl
    | aborted failure =>
      rw [checked] at settles
      obtain ⟨set,field,tag,shown,rfl⟩ | decoding := endsDecoding settles
      · exact .unknown set field tag shown
      · cases failure with
        | invalid => cases decoding
        | _ => exact .refused decoding decoding

def guestJson : Json :=
  .object [("update_id",.int 1),
    ("my_chat_member",.object [("old_chat_member",.object [("status",.text "guest")])])]

def guestUpdate : Bytes := Utf8.bytesOf (guestJson.write Json.compact)

theorem guestEnclosable : Enclosable guestUpdate := by
  have lasting : Json.Lasting guestJson := by
    refine .object (by decide) ?_
    simp only [List.forall_mem_cons,List.not_mem_nil,false_imp_iff,implies_true,and_true]
    refine ⟨.int rfl,.object (by decide) ?_⟩
    simp only [List.forall_mem_cons,List.not_mem_nil,false_imp_iff,implies_true,and_true]
    refine .object (by decide) ?_
    simp only [List.forall_mem_cons,List.not_mem_nil,false_imp_iff,implies_true,and_true]
    exact .text _
  have encodable : Utf8.Encodable (guestJson.write Json.compact) := by decide
  refine writtenEnclosable lasting encodable ?_
  rintro _ ⟨⟩
  decide

def idle : Scene (UpdateQueue Value) := ⟨.empty,.empty 1⟩

theorem guestAlike : Enclosable guestUpdate ∧
    Alike ((decode "/hook" guestUpdate).perform idle).1 (polled guestUpdate) :=
  ⟨guestEnclosable,decodedAlike guestEnclosable "/hook" idle⟩

end BotGateway.WebhookUpdates
