import BotGateway.Client.Line
import BotGateway.Client.Method
import BotGateway.Client.Token
import BotGateway.Request.Payload

/-! The client: a call is encoded, posted once and its result decoded. -/
namespace BotGateway

structure Client where
  token : Text
  apiUrl : Text
  timeout : Value
  boundary : Text

namespace Client

def defaultApiUrl : Text := "https://api.telegram.org"

def defaultTimeout : Value := .float (Binary64.ofInt 30)

def create (token apiUrl : Text) (timeout : Value) (boundary : Text) : Action world Client := do
  if Token.isValid token then
    Action.register token
    return ⟨token,Text.trimEnd (· == ('/' : CodePoint)) apiUrl,timeout,boundary⟩
  else throw .badToken

def methodUrl (client : Client) (endpoint : Text) : Text :=
  client.apiUrl ++ "/bot" ++ client.token ++ "/" ++ endpoint

def codeValue (code : Option Int) : Value := (code.map .int).getD .null

def textValue (t : Option Text) : Value := (t.map .text).getD .null

def accept (endpoint : Text) (type : ResultType) (envelope : Envelope) : Action world Value :=
  match envelope.error? with
  | some error => do
    Action.note .warning "Bot API returned an error"
      [("api_endpoint",.text endpoint),("error_code",codeValue envelope.errorCode),
        ("description",textValue envelope.description)]
    throw (.api error)
  | none =>
    match envelope.decodeResult type with
    | .ok value => return value
    | .error failure => throw failure

def call (client : Client) (endpoint : Text) (parameters : Value) (type : ResultType) :
    Action Outside Value := do
  let payload ← Outside.onShelf (Payload.encode client.boundary parameters)
  Action.note .debug "Calling Bot API"
    [("api_endpoint",.text endpoint),("content_type",.text payload.contentType)]
  let envelope ← Outside.onLine
    (Line.call ⟨client.methodUrl endpoint,payload.contentType,payload.body,client.timeout⟩)
  accept endpoint type envelope

def invoke (client : Client) (method : Method) (places : List Value)
    (named : List (Text × Value)) : Action Outside Value :=
  match method.bind places named with
  | .ok parameters => client.call method.endpoint parameters method.result
  | .error failure => throw failure

end Client
end BotGateway
