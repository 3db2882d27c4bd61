import BotGateway.Http.Connection
import BotGateway.Http.Percent
import BotGateway.Webhook.Address

/-! The backends a webhook can be served by: how each finds the route of a request, and how each is
started and stopped. -/
namespace BotGateway

inductive Backend where
  | eventLoop
  | multiplexer
  | blocking
  deriving DecidableEq, Repr

namespace Backend

def name : Backend → Text
  | .eventLoop => "aiohttp"
  | .multiplexer => "fastapi"
  | .blocking => "http"

def all : List Backend := [.eventLoop,.multiplexer,.blocking]

def ofName? (name : Text) : Option Backend := all.find? (·.name == name)

def create (name : Text) : Except Failure Backend :=
  match ofName? name with
  | some backend => .ok backend
  | none => .error (.unknownBackend name)

end Backend

structure Inbound (world : Type) where
  method : Text
  target : Text
  secret : Option Text
  read : Action world Bytes

namespace EventLoop
variable {world : Type}

def withoutHost (target : Text) : Text :=
  if ("//" : Text).isPrefixOf target then
    let path := (target.drop 2).dropWhile (· != ('/' : CodePoint))
    if path.isEmpty then "/" else path
  else target

def routePath (target : Text) : Text :=
  Http.Percent.decode (withoutHost ((pathOf target).takeWhile (· != ('#' : CodePoint))))

def serve (routes : Routes world) (request : Inbound world) : Action world Status :=
  match routes.ingress? (routePath request.target) with
  | none => return .notFound
  | some ingress => ingress.processWaiting request.method request.secret request.read

end EventLoop

namespace Multiplexer
variable {world : Type}

def takes (path route : Text) : Bool := path == route || path == route ++ "\n"

def find? (routes : Routes world) (path : Text) : Option (Ingress world) :=
  (List.find? (fun (route,_) => takes path route) routes).map (·.2)

def isSlash (c : CodePoint) : Bool := c == '/'

def counterpart (path : Text) : Text :=
  if path.getLast?.any isSlash then Text.trimEnd isSlash path else path ++ "/"

def readWhole (read : Action world Bytes) : Action world Bytes := do
  match ← Action.outcome read with
  | .ok body => return body
  | .error _ => throw (.raised .connection [])

def serve (routes : Routes world) (request : Inbound world) : Action world Status :=
  let path := pathOf request.target
  match find? routes path with
  | some ingress =>
    if isRouted request.method then
      ingress.processWaiting request.method request.secret (readWhole request.read)
    else return .methodNotAllowed
  | none =>
    if path == "/" then return .notFound
    else if (find? routes (counterpart path)).isSome then return .redirected
    else return .notFound

end Multiplexer

structure Listener where
  backend : Backend
  bound : Option Address

namespace Listener

def address (listener : Listener) : Except Failure Address :=
  match listener.bound with
  | some address => .ok address
  | none => .error .notRunning

def start (bind : Address → Except Failure Address) (address : Text) : Action Listener Unit := do
  let listener ← Action.current
  if listener.bound.isSome then throw .alreadyStarted
  match Address.parse address with
  | .error failure => throw failure
  | .ok asked =>
    match bind asked with
    | .error failure => throw failure
    | .ok bound =>
      Action.change fun listener => ⟨listener.backend,some bound⟩
      Action.note .info "Webhook server started"
        [("address",.text address),("backend",.text listener.backend.name)]

def stop : Action Listener Unit := do
  let listener ← Action.current
  if listener.bound.isSome then
    Action.change fun listener => ⟨listener.backend,none⟩
    Action.note .info "Webhook server stopped" [("backend",.text listener.backend.name)]

end Listener
end BotGateway
