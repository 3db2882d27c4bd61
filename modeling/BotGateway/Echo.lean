import BotGateway.Settings
import BotGateway.Updates.Webhook

/-! The bot that echoes: each text message it receives is sent back to its chat. -/
namespace BotGateway.Echo
variable {site : Type}

def textMessage? (update : Value) : Option (Value × Value) :=
  let message := update.field "message"
  if message.isNull || !(message.field "text").isTruthy then none
  else some ((message.field "chat").field "id",message.field "text")

def noteFailure (chat : Value) (failure : Failure) : Action world Unit :=
  match failure with
  | .api error =>
    Action.note .warning "sendMessage rejected"
      [("chat_id",chat),("error_code",.int error.code),
        ("retry_after",Client.codeValue (error.hint.bind (·.retryAfter)))]
  | failure =>
    if failure.kind.isSdk then
      Action.note .error "sendMessage failed" [("chat_id",chat),("error",.text failure.message)]
    else throw failure

def answer (client : Client) (update : Value) : Action Outside Unit := do
  match textMessage? update with
  | none =>
    Action.note .debug "Update has no text message — skipping"
      [("update_id",update.field "update_id")]
  | some (chat,text) =>
    match ← Action.outcome (client.invoke Method.sendMessage [chat,text] []) with
    | .ok _ => return
    | .error failure => noteFailure chat failure

abbrev Course := List (UpdateQueue Value → UpdateQueue Value)

def settling (queue : UpdateQueue Value) : Course :=
  List.replicate (queue.slots.length + 2) UpdateQueue.settle

def answerAlong (client : Client) : Course → Action (Station site) Unit
  | [] => return
  | others :: course => do
    let (taken,queue) := (others (← Action.current).queue).get
    Station.changeQueue fun _ => queue
    match taken with
    | .update update =>
      Station.onOutside (answer client update)
      answerAlong client course
    | .nothing => answerAlong client course
    | .ended => return

def serve (client : Client) (courseOf : UpdateQueue Value → Course) (ending : Except Failure Unit) :
    Action (Station site) Unit := do
  let course := courseOf (← Action.current).queue
  match ← Action.outcome (answerAlong client course >>= fun _ => MonadExcept.ofExcept ending) with
  | .ok _ => return
  | .error failure =>
    if failure.kind == .keyboardInterrupt then Action.note .info "Shutting down" []
    else throw failure

def stopTimeout : Value := .int 5

def isSet (setting : Option Text) : Bool := (Settings.present setting).isSome

def release (client : Client) (server : Server (Station site)) (settings : Settings) :
    Action (Station site) Unit := do
  let _ ← server.stop stopTimeout
  if isSet settings.publicUrl then
    let _ ← Station.onOutside (client.invoke Method.deleteWebhook [] [])

def shutDown (client : Client) (server : Server (Station site)) (settings : Settings) :
    Action (Station site) Unit := do
  Station.changeQueue UpdateQueue.stop
  release client server settings

def authorise (settings : Settings) (timeout : Value) (boundary : Text) :
    Action (Station site) Client := do
  match Settings.present settings.token with
  | none => throw .tokenMissing
  | some token =>
    let client ← Client.create token settings.apiUrl timeout boundary
    let me ← Station.onOutside (client.invoke Method.getMe [] [])
    Action.note .info "Bot authorised"
      [("bot_id",me.field "id"),("username",me.field "username")]
    return client

def createServer (settings : Settings) (serverOf : Backend → Server (Station site)) :
    Except Failure (Server (Station site)) :=
  (Backend.create settings.backend).map serverOf

def listen (client : Client) (server : Server (Station site)) (settings : Settings) :
    Action (Station site) Unit := do
  WebhookUpdates.ofClient client server settings.path (Client.textValue settings.secret)
    (Client.textValue settings.publicUrl) .null WebhookUpdates.defaultBuffer
  let _ ← server.start settings.address

def runAlong (courseOf : UpdateQueue Value → Course) (ending : Except Failure Unit)
    (settings : Settings) (timeout : Value) (boundary : Text)
    (serverOf : Backend → Server (Station site)) : Action (Station site) Unit := do
  let client ← authorise settings timeout boundary
  let server ← MonadExcept.ofExcept (createServer settings serverOf)
  listen client server settings
  Action.closing (serve client courseOf ending) (shutDown client server settings)

def run (settings : Settings) (timeout : Value) (boundary : Text)
    (serverOf : Backend → Server (Station site)) : Action (Station site) Unit :=
  runAlong settling (.ok ()) settings timeout boundary serverOf

end BotGateway.Echo
