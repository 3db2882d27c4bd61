import BotGateway.Action
import BotGateway.Text.Case

/-! The way of a webhook request: its method and secret are checked, its body is read, its handler
is called, and all that is answered is a status. -/
namespace BotGateway

inductive Status where
  | ok
  | unauthorized
  | notFound
  | methodNotAllowed
  | serverError
  | redirected
  deriving DecidableEq, Repr

def Status.code : Status → Nat
  | .ok => 200
  | .unauthorized => 401
  | .notFound => 404
  | .methodNotAllowed => 405
  | .serverError => 500
  | .redirected => 307

/-- Every call of a coroutine function hands back work that is still to be waited for. Any other
function does its work in the call, or hands work back as well. -/
inductive Handler (world : Type) where
  | coroutine (call : Bytes → Action world (Action world Unit))
  | function (call : Bytes → Action world (Option (Action world Unit)))

namespace Handler
variable {world inner : Type}

def direct (work : Bytes → Action world Unit) : Handler world :=
  .function fun body => do work body; return none

def waiting (work : Bytes → Action world Unit) : Handler world :=
  .coroutine fun body => return work body

def deferring (work : Bytes → Action world Unit) : Handler world :=
  .function fun body => return some (work body)

def within (view : world → inner) (put : inner → world → world) : Handler inner → Handler world
  | .coroutine call => .coroutine fun body => do
    let work ← Action.within view put (call body)
    return Action.within view put work
  | .function call => .function fun body => do
    let work ← Action.within view put (call body)
    return work.map (Action.within view put)

def call (handler : Handler world) (body : Bytes) : Action world (Option (Action world Unit)) :=
  match handler with
  | .coroutine call => do
    let work ← call body
    return some work
  | .function call => call body

def finish (work : Option (Action world Unit)) : Action world Unit :=
  match work with
  | some action => action
  | none => return

-- a thread looks at what the call hands back
def runBlocking (handler : Handler world) (body : Bytes) : Action world Unit := do
  finish (← handler.call body)

-- an event loop looks at the handler first; what is no coroutine function runs beside the loop
def runWaiting (handler : Handler world) (body : Bytes) : Action world Unit :=
  match handler with
  | .coroutine call => do
    let work ← call body
    work
  | .function call => do
    match ← call body with
    | some work => work
    | none => return

end Handler

structure Ingress (world : Type) where
  handler : Handler world
  secret : Option Text

namespace Ingress
variable {world inner : Type}

def within (view : world → inner) (put : inner → world → world) (ingress : Ingress inner) :
    Ingress world :=
  ⟨ingress.handler.within view put,ingress.secret⟩

def encoded (t : Text) : Except Failure Bytes :=
  match Utf8.encode t with
  | .ok raw => .ok raw
  | .error found => .error (.unencodable found)

def authenticate (secret header : Option Text) : Except Failure Unit :=
  match secret, header with
  | none, _ => .ok ()
  | some [], _ => .ok ()
  | some _, none => .error .secretMismatch
  | some secret, some header => do
    let given ← encoded header
    let expected ← encoded secret
    if given == expected then return else throw .secretMismatch

def accepts (method : Text) : Bool := Case.upper method == "POST"

def reject (failure : Failure) : Action world Status :=
  match failure with
  | .secretMismatch => do
    Action.note .debug "Webhook request rejected" [("reason",.text failure.message)]
    return .unauthorized
  | .bodyUnreadable _ => do
    Action.note .error "Webhook read error" [("error",.text failure.message)]
    return .serverError
  | other => throw other

def handlerFailed (failure : Failure) : Action world Status := do
  Action.note .error "Webhook handler error"
    [("error",.text failure.message),("error_type",.text failure.kind.name)]
  return .serverError

def dispatch (handler : Handler world) (body : Bytes) : Action world Status := do
  match ← Action.outcome (handler.runBlocking body) with
  | .ok _ => return .ok
  | .error failure => if failure.kind.isOrdinary then handlerFailed failure else throw failure

def process (ingress : Ingress world) (method : Text) (header : Option Text)
    (read : Action world Bytes) : Action world Status := do
  if accepts method then
    match authenticate ingress.secret header with
    | .error failure => reject failure
    | .ok _ =>
      match ← Action.outcome read with
      | .error failure =>
        if failure.kind.isOrdinary then reject (.bodyUnreadable failure) else throw failure
      | .ok body => dispatch ingress.handler body
  else return .methodNotAllowed

def dispatchWaiting (handler : Handler world) (body : Bytes) : Action world Status := do
  match ← Action.outcome (handler.runWaiting body) with
  | .ok _ => return .ok
  | .error failure => if failure.kind.isOrdinary then handlerFailed failure else throw failure

def processWaiting (ingress : Ingress world) (method : Text) (header : Option Text)
    (read : Action world Bytes) : Action world Status := do
  if accepts method then
    match authenticate ingress.secret header with
    | .error failure => reject failure
    | .ok _ =>
      match ← Action.outcome read with
      | .error failure =>
        if failure.kind.isOrdinary then reject (.bodyUnreadable failure) else throw failure
      | .ok body => dispatchWaiting ingress.handler body
  else return .methodNotAllowed

end Ingress
end BotGateway
