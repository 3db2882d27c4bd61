import BotGateway.Webhook.Ingress

/-! The routes of a webhook server: one ingress for a path. -/
namespace BotGateway

abbrev Routes (world : Type) := List (Text × Ingress world)

namespace Routes
variable {world : Type}

def put (path : Text) (ingress : Ingress world) : Routes world → Routes world
  | [] => [(path,ingress)]
  | (p,i) :: rest => if p == path then (path,ingress) :: rest else (p,i) :: put path ingress rest

def ingress? (routes : Routes world) (path : Text) : Option (Ingress world) := routes.lookup path

def register (backend path : Text) (ingress : Ingress world) (routes : Routes world) :
    Action world (Routes world) := do
  Action.note .debug "Webhook handler registered" [("path",.text path),("backend",.text backend)]
  return put path ingress routes

end Routes

def secretHeader : Text := "X-Telegram-Bot-Api-Secret-Token"

def pathOf (target : Text) : Text := target.takeWhile (· != ('?' : CodePoint))

def routedMethods : List String := ["POST","GET","PUT","PATCH","DELETE","HEAD","OPTIONS"]

def isRouted (method : Text) : Bool := routedMethods.any fun name => (name : Text) == method

end BotGateway
