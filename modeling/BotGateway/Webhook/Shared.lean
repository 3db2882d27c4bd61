import BotGateway.Once
import BotGateway.Webhook.Server

/-! One server for many bots: its first start and its first stop are the only ones that reach it,
and every registration does. -/
namespace BotGateway

structure Shared (world : Type) where
  started : Once Value
  stopped : Once Value
  owner : world

namespace Shared
variable {world : Type}

def fresh (owner : world) : Shared world := ⟨.fresh,.fresh,owner⟩

def onOwner (action : Action world α) : Action (Shared world) α :=
  Action.within Shared.owner (fun owner shared => {shared with owner := owner}) action

def start (server : Server world) (address : Text) : Action (Shared world) Value := do
  if (← Action.current).started.done then
    Action.note .debug "Webhook server start already performed" [("address",.text address)]
  Once.run Shared.started (fun once shared => {shared with started := once})
    (onOwner (server.start address))

def stop (server : Server world) (timeout : Value) : Action (Shared world) Value :=
  Once.run Shared.stopped (fun once shared => {shared with stopped := once})
    (onOwner (server.stop timeout))

def register (server : Server world) (path : Text) (ingress : Ingress world) :
    Action (Shared world) Value := do
  let _ ← onOwner (server.register path ingress)
  return .null

end Shared
end BotGateway
