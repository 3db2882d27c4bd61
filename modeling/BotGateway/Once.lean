import BotGateway.Action

/-! A task of which only the first run counts: its outcome stands for every later one. -/
namespace BotGateway

structure Once (α : Type) where
  outcome : Option (Except Failure α)

namespace Once
variable {world : Type}

def fresh : Once α := ⟨none⟩

def done (once : Once α) : Bool := once.outcome.isSome

def run (view : world → Once α) (put : Once α → world → world) (task : Action world α) :
    Action world α := do
  match (view (← Action.current)).outcome with
  | some outcome => Action.ofRun fun scene => (outcome,scene)
  | none =>
    let outcome ← Action.outcome task
    Action.change (put ⟨some outcome⟩)
    Action.ofRun fun scene => (outcome,scene)

end Once
end BotGateway
