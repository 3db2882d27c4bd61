import BotGateway.Updates.Station
import BotGateway.Webhook.Server

/-! Updates received by a webhook: a handler decodes each body and queues the update in it. -/
namespace BotGateway

namespace WebhookUpdates
variable {site : Type}

def defaultBuffer : Int := 128

def refusal : Failure := .queueStopped true

def decode (path : Text) (body : Bytes) : Action world Value := do
  Action.note .debug "Webhook request" [("path",.text path),("size",.int body.length)]
  match Envelope.readRecord .update body with
  | .ok update => return update
  | .error (.invalid report) =>
    Action.note .error "Webhook decoding error"
      [("path",.text path),("error",.text report.headline)]
    throw (.badUpdate report)
  | .error failure => throw failure

def receive (path : Text) (body : Bytes) : Action (UpdateQueue Value) Unit := do
  if (← Action.current).stopped then throw .webhookClosed
  let update ← decode path body
  UpdateQueue.put refusal update

def resume (body : Bytes) : Action (UpdateQueue Value) Unit := do
  match Envelope.readRecord .update body with
  | .ok update => UpdateQueue.put refusal update
  | .error failure => throw failure

def handler (path : Text) : Handler (Station site) :=
  (Handler.direct (receive path)).within Station.queue
    fun queue station => {station with queue := queue}

def create (server : Server (Station site)) (path : Text) (secret : Option Text) (bound : Int) :
    Action (Station site) Unit := do
  Station.changeQueue fun _ => UpdateQueue.empty bound
  let _ ← server.register path ⟨handler path,secret⟩

def announce (client : Client) (secret publicUrl allowed : Value) : Action (Station site) Unit := do
  if !publicUrl.isNull then
    let _ ← Station.onOutside (client.invoke Method.setWebhook []
      [("url",publicUrl),("allowed_updates",allowed),("secret_token",secret)])

def ofClient (client : Client) (server : Server (Station site)) (path : Text)
    (secret publicUrl allowed : Value) (bound : Int) : Action (Station site) Unit := do
  announce client secret publicUrl allowed
  create server path secret.text? bound

end WebhookUpdates
end BotGateway
