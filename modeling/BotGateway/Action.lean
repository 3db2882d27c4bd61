import BotGateway.Failure
import BotGateway.Journal.Basic

/-! Actions: they may fail, change a world and write to the journal. What was changed or written
before a failure stays. -/
namespace BotGateway

structure Scene (world : Type) where
  journal : Journal
  world : world

abbrev Action (world : Type) := ExceptT Failure (StateM (Scene world))

namespace Action
variable {world inner : Type}

def perform (action : Action world α) (scene : Scene world) : Except Failure α × Scene world :=
  (action.run).run scene

def ofRun (run : Scene world → Except Failure α × Scene world) : Action world α :=
  ExceptT.mk run

def current : Action world world := return (← get).world

def change (step : world → world) : Action world Unit :=
  modify fun scene => ⟨scene.journal,step scene.world⟩

def note (level : Level) (message : Text) (details : Details) : Action world Unit :=
  modify fun scene => ⟨scene.journal.write ⟨level,message,details⟩,scene.world⟩

def register (token : Text) : Action world Unit :=
  modify fun scene => ⟨scene.journal.register token,scene.world⟩

def outcome (action : Action world α) : Action world (Except Failure α) :=
  ofRun fun scene =>
    let (result,scene) := action.perform scene
    (.ok result,scene)

def within (view : world → inner) (put : inner → world → world) (action : Action inner α) :
    Action world α :=
  ofRun fun scene =>
    let (result,part) := action.perform ⟨scene.journal,view scene.world⟩
    (result,⟨part.journal,put part.world scene.world⟩)

/-- Runs `last` after `action`, whether it failed or not; a failure of `last` wins. -/
def closing (action : Action world α) (last : Action world Unit) : Action world α := do
  let result ← outcome action
  last
  ofRun fun scene => (result,scene)

end Action
end BotGateway
