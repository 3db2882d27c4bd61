import BotGateway.Client.Basic
import BotGateway.Updates.Queue

/-! What a bot acts on: the line and the files it posts with, its queue of updates, and the site it
is run at. -/
namespace BotGateway

structure Station (site : Type) where
  outside : Outside
  queue : UpdateQueue Value
  site : site

namespace Station
variable {site : Type}

def onOutside (action : Action Outside α) : Action (Station site) α :=
  Action.within Station.outside (fun outside station => {station with outside := outside}) action

def onQueue (action : Action (UpdateQueue Value) α) : Action (Station site) α :=
  Action.within Station.queue (fun queue station => {station with queue := queue}) action

def changeQueue (step : UpdateQueue Value → UpdateQueue Value) : Action (Station site) Unit :=
  Action.change fun station => {station with queue := step station.queue}

def onSite (action : Action site α) : Action (Station site) α :=
  Action.within Station.site (fun site station => {station with site := site}) action

end Station
end BotGateway
