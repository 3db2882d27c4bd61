import BotGateway.Client.Basic
import BotGateway.Proofs.Action
import BotGateway.Proofs.Envelope

/-! A call from end to end. Without a body nothing is posted; with one there is one post and one reply,
and the reply alone decides what the call gives. -/
namespace BotGateway

namespace Line
variable {world : Type}

def reply (line : Line) : Reply := line.pending.headD line.afterwards

def after (post : Post) (line : Line) : Line :=
  ⟨line.pending.tail,line.afterwards,line.sent ++ [post]⟩

theorem exchanged (post : Post) (line : Line) :
    line.exchange post = (line.reply,line.after post) := by
  rw [exchange,reply,after]
  cases line.pending <;> rfl

def received : Reply → Except Failure Envelope
  | .answered status body =>
    if firstServerError ≤ status then .error (.serverError status) else Envelope.decode body
  | .failed failure => .error (if failure.kind == .network then .networkDown failure.message else failure)

theorem receives (url : Text) (reply : Reply) (scene : Scene world) :
    ∃ journal, (receive url reply).perform scene = (received reply,⟨journal,scene.world⟩) := by
  cases reply with
  | answered status body =>
    rw [receive,received]
    split
    · exact ⟨_,rfl⟩
    · cases Envelope.decode body <;> exact ⟨_,rfl⟩
  | failed failure =>
    rw [receive,received]
    split <;> exact ⟨_,rfl⟩

theorem calls (post : Post) (scene : Scene Line) : ∃ journal, (call post).perform scene =
    (received scene.world.reply,⟨journal,scene.world.after post⟩) := by
  rw [call,Action.perform_bind,Action.perform_current]
  dsimp only
  rw [exchanged]
  dsimp only
  rw [Action.perform_bind,Action.perform_change]
  exact receives post.url scene.world.reply ⟨scene.journal,scene.world.after post⟩

end Line

namespace Client
variable {type : ResultType}

structure Raises (failure : Failure) (kind : Failure.Kind) (status : Option Int) : Prop where
  kind : failure.kind = kind
  status : failure.status? = status

inductive Answers (type : ResultType) : Reply → Except Failure Value → Prop where
  | network {cause failure : Failure} (network : cause.kind = .network)
      (raises : Raises failure .transport none) : Answers type (.failed cause) (.error failure)
  | broken {cause : Failure} (other : cause.kind ≠ .network) :
      Answers type (.failed cause) (.error cause)
  | serverError {status : Int} {body : Bytes} {failure : Failure} (server : 500 ≤ status)
      (raises : Raises failure .transport (some status)) :
      Answers type (.answered status body) (.error failure)
  | noEnvelope {status : Int} {body : Bytes} {failure : Failure} (below : status < 500)
      (failed : Envelope.decode body = .error failure) (raises : Raises failure .decode none) :
      Answers type (.answered status body) (.error failure)
  | declined {status : Int} {body : Bytes} {envelope : Envelope} (below : status < 500)
      (decoded : Envelope.decode body = .ok envelope) (declines : envelope.ok = false) :
      Answers type (.answered status body) (.error (.api
        ⟨envelope.errorCode.getD 0,envelope.description.getD [],envelope.hint⟩))
  | result {status : Int} {body : Bytes} {envelope : Envelope} {value : Value} (below : status < 500)
      (decoded : Envelope.decode body = .ok envelope) (accepts : envelope.ok = true)
      (result : envelope.decodeResult type = .ok value) :
      Answers type (.answered status body) (.ok value)
  | misfit {status : Int} {body : Bytes} {envelope : Envelope} {failure : Failure}
      (below : status < 500) (decoded : Envelope.decode body = .ok envelope)
      (accepts : envelope.ok = true) (failed : envelope.decodeResult type = .error failure)
      (kind : failure.kind = .decode ∨ failure.kind = .unknownVariant) :
      Answers type (.answered status body) (.error failure)

def accepted (type : ResultType) (envelope : Envelope) : Except Failure Value :=
  match envelope.error? with
  | some error => .error (.api error)
  | none => envelope.decodeResult type

theorem accepts {world : Type} (endpoint : Text) (type : ResultType) (envelope : Envelope)
    (scene : Scene world) : ∃ journal,
      (accept endpoint type envelope).perform scene = (accepted type envelope,⟨journal,scene.world⟩) := by
  rw [accept,accepted]
  cases envelope.error? with
  | some error => exact ⟨_,rfl⟩
  | none => cases envelope.decodeResult type <;> exact ⟨_,rfl⟩

theorem envelopeAnswers {status : Int} {body : Bytes} {envelope : Envelope} (below : status < 500)
    (decoded : Envelope.decode body = .ok envelope) :
    Answers type (.answered status body) (accepted type envelope) := by
  rw [accepted,Envelope.error?]
  cases there : envelope.ok with
  | false => exact .declined below decoded there
  | true =>
    cases result : envelope.decodeResult type with
    | ok value => exact .result below decoded there result
    | error failure =>
      have refuses := Envelope.resultFails (Envelope.decodedRead decoded) result
      exact .misfit below decoded there result (ResultType.refusesKind refuses)

theorem replyAnswers (reply : Reply) : Answers type reply (Line.received reply >>= accepted type) := by
  cases reply with
  | failed cause =>
    rw [Line.received]
    split
    · rename_i network
      exact .network (eq_of_beq network) ⟨rfl,rfl⟩
    · rename_i other
      exact .broken (by simpa using other)
  | answered status body =>
    rw [Line.received]
    split
    · rename_i server
      exact .serverError server ⟨rfl,rfl⟩
    · rename_i below
      have below := Int.not_le.mp below
      cases decoded : Envelope.decode body with
      | ok envelope => exact envelopeAnswers below decoded
      | error failure =>
        obtain ⟨report,rfl⟩ := Envelope.decodeFails decoded
        exact .noEnvelope below decoded ⟨rfl,rfl⟩

def post (client : Client) (endpoint : Text) (payload : Payload) : Post :=
  ⟨client.methodUrl endpoint,payload.contentType,payload.body,client.timeout⟩

theorem postAnswered (post : Post) (endpoint : Text) (type : ResultType) (scene : Scene Outside) :
    ∃ journal, (Outside.onLine (Line.call post) >>= accept endpoint type).perform scene =
      (Line.received scene.world.line.reply >>= accepted type,
        ⟨journal,scene.world.shelf,scene.world.line.after post⟩) := by
  obtain ⟨journal,ends⟩ := Line.calls post ⟨scene.journal,scene.world.line⟩
  rw [Action.perform_bind,Outside.onLine,Action.perform_within,ends]
  cases Line.received scene.world.line.reply with
  | error failure => exact ⟨_,rfl⟩
  | ok envelope => exact accepts endpoint type envelope _

section Ends
variable {client : Client} {endpoint : Text} {parameters : Value} {scene : Scene Outside}
  {after : Scene Shelf}

theorem callUnsent {failure : Failure}
    (encoded : (Payload.encode client.boundary parameters).perform
      ⟨scene.journal,scene.world.shelf⟩ = (.error failure,after)) :
    (client.call endpoint parameters type).perform scene =
      (.error failure,⟨after.journal,after.world,scene.world.line⟩) := by
  rw [call,Action.perform_bind,Outside.onShelf,Action.perform_within,encoded]

theorem callSent {payload : Payload}
    (encoded : (Payload.encode client.boundary parameters).perform
      ⟨scene.journal,scene.world.shelf⟩ = (.ok payload,after)) :
    ∃ journal, (client.call endpoint parameters type).perform scene =
      (Line.received scene.world.line.reply >>= accepted type,
        ⟨journal,after.world,scene.world.line.after (client.post endpoint payload)⟩) := by
  rw [call,Action.perform_bind,Outside.onShelf,Action.perform_within,encoded]
  dsimp only
  rw [Action.perform_bind,Action.perform_note]
  exact postAnswered (client.post endpoint payload) endpoint type
    ⟨after.journal.write ⟨.debug,"Calling Bot API",[("api_endpoint",.text endpoint),
      ("content_type",.text payload.contentType)]⟩,⟨after.world,scene.world.line⟩⟩

end Ends

structure Called (client : Client) (endpoint : Text) (type : ResultType) (line : Line)
    (encoded : Except Failure Payload × Scene Shelf) (final : Except Failure Value × Scene Outside) :
    Prop where
  shelf : final.2.world.shelf = encoded.2.world
  unsent : ∀ failure, encoded.1 = .error failure →
    final.1 = .error failure ∧ final.2.world.line = line
  sent : ∀ payload, encoded.1 = .ok payload →
    final.2.world.line = line.after (client.post endpoint payload) ∧ Answers type line.reply final.1

theorem callAnswered (client : Client) (endpoint : Text) (parameters : Value) (type : ResultType)
    (scene : Scene Outside) : Called client endpoint type scene.world.line
      ((Payload.encode client.boundary parameters).perform ⟨scene.journal,scene.world.shelf⟩)
      ((client.call endpoint parameters type).perform scene) := by
  rcases encoded : (Payload.encode client.boundary parameters).perform
    ⟨scene.journal,scene.world.shelf⟩ with ⟨failure | payload,after⟩
  · rw [callUnsent encoded]
    refine ⟨rfl,?_,nofun⟩
    rintro _ ⟨⟩
    exact ⟨rfl,rfl⟩
  · obtain ⟨journal,ends⟩ := callSent encoded
    rw [ends]
    refine ⟨rfl,nofun,?_⟩
    rintro _ ⟨⟩
    exact ⟨rfl,replyAnswers _⟩

theorem methodUrlSame {client : Client} {endpoint other : Text} :
    client.methodUrl endpoint = client.methodUrl other ↔ endpoint = other := by
  simp [methodUrl]

theorem invokePosts (client : Client) (method : Method) (places : List Value)
    (named : List (Text × Value)) (scene : Scene Outside) :
    ∃ posts, ((client.invoke method places named).perform scene).2.world.line.sent =
        scene.world.line.sent ++ posts ∧
      ∀ post ∈ posts, post.url = client.methodUrl method.endpoint := by
  rw [invoke]
  split
  · rename_i parameters _
    rcases encoded : (Payload.encode client.boundary parameters).perform
      ⟨scene.journal,scene.world.shelf⟩ with ⟨failure | payload,after⟩
    · rw [callUnsent encoded]
      exact ⟨[],by simp,by simp⟩
    · obtain ⟨journal,ends⟩ := callSent encoded
      rw [ends]
      exact ⟨[client.post method.endpoint payload],rfl,by simp [post]⟩
  · exact ⟨[],by simp,by simp⟩

end Client
end BotGateway
