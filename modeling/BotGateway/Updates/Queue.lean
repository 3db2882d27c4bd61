import BotGateway.Action

/-! A bounded queue that can be stopped. A stopped queue accepts nothing more; a marker, placed as
soon as there is room, ends it for every consumer, after all that was accepted before. Each
operation is one atomic step. -/
namespace BotGateway

inductive Slot (α : Type) where
  | update (value : α)
  | marker
  deriving DecidableEq, Repr

/-- A bound that is not positive bounds nothing. `pending` tells that the marker waits for room,
and `held` counts the consumers that took it and have yet to put it back. -/
structure UpdateQueue (α : Type) where
  bound : Int
  slots : List (Slot α)
  stopped : Bool
  pending : Bool
  held : Nat
  deriving DecidableEq, Repr

namespace UpdateQueue

inductive Offer where
  | accepted
  | full
  | refused
  deriving DecidableEq, Repr

inductive Taken (α : Type) where
  | nothing
  | update (value : α)
  | ended
  deriving DecidableEq, Repr

def empty (bound : Int) : UpdateQueue α := ⟨bound,[],false,false,0⟩

def hasRoom (queue : UpdateQueue α) : Bool :=
  queue.bound ≤ 0 || queue.slots.length < queue.bound

def offer (value : α) (queue : UpdateQueue α) : Offer × UpdateQueue α :=
  if queue.stopped then (.refused,queue)
  else if queue.hasRoom then (.accepted,{queue with slots := queue.slots ++ [.update value]})
  else (.full,queue)

def stop (queue : UpdateQueue α) : UpdateQueue α :=
  if queue.stopped then queue else {queue with stopped := true,pending := true}

def settle (queue : UpdateQueue α) : UpdateQueue α :=
  if queue.pending && queue.hasRoom then
    {queue with slots := queue.slots ++ [.marker],pending := false}
  else queue

def take (queue : UpdateQueue α) : Taken α × UpdateQueue α :=
  match queue.slots with
  | [] => (.nothing,queue)
  | .update value :: rest => (.update value,{queue with slots := rest})
  | .marker :: rest => (.ended,{queue with slots := rest,held := queue.held + 1})

def putBack (queue : UpdateQueue α) : UpdateQueue α :=
  if 0 < queue.held && queue.hasRoom then
    {queue with slots := queue.slots ++ [.marker],held := queue.held - 1}
  else queue

def get (queue : UpdateQueue α) : Taken α × UpdateQueue α :=
  match queue.take with
  | (.ended,queue) => (.ended,queue.putBack)
  | other => other

def untilMarker : List (Slot α) → List α × List (Slot α)
  | .update value :: rest =>
    let (values,left) := untilMarker rest
    (value :: values,left)
  | left => ([],left)

def drain (queue : UpdateQueue α) : List α × UpdateQueue α :=
  let (values,left) := untilMarker queue.slots
  (values,{queue with slots := left}.settle)

def put (refusal : Failure) (value : α) : Action (UpdateQueue α) Unit := do
  let (found,queue) := (← Action.current).offer value
  Action.change fun _ => queue
  match found with
  | .accepted => return
  | .full => throw .queueFull
  | .refused => throw refusal

def next : Action (UpdateQueue α) (Option α) := do
  let (taken,queue) := (← Action.current).get
  Action.change fun _ => queue
  match taken with
  | .nothing => throw .nothingArrived
  | .update value => return some value
  | .ended => return none

end UpdateQueue
end BotGateway
