import BotGateway.Proofs.Webhook.Handler

/-! Requests under watch: every reading of the body and every call of the handler is written down
beside the world. Watching changes nothing of what a request does. -/
namespace BotGateway

inductive Deed where
  | reads
  | calls (body : Bytes)
  deriving DecidableEq, Repr

structure Watched (world : Type) where
  deeds : List Deed
  world : world

namespace Watched
variable {world : Type} {α β : Type}

def record (deed : Deed) : Action (Watched world) Unit :=
  Action.change fun watched => {watched with deeds := watched.deeds ++ [deed]}

def unseen (action : Action world α) : Action (Watched world) α :=
  Action.within Watched.world (fun world watched => {watched with world := world}) action

def reading (read : Action world Bytes) : Action (Watched world) Bytes := do
  record .reads
  unseen read

def calling : Handler world → Handler (Watched world)
  | .coroutine call => .coroutine fun body => do
    record (.calls body)
    let work ← unseen (call body)
    return unseen work
  | .function call => .function fun body => do
    record (.calls body)
    let work ← unseen (call body)
    return work.map unseen

def serving (ingress : Ingress world) : Ingress (Watched world) :=
  ⟨calling ingress.handler,ingress.secret⟩

def plain (scene : Scene (Watched world)) : Scene world := ⟨scene.journal,scene.world.world⟩

def Shows (watched : Action (Watched world) α) (action : Action world α) : Prop :=
  ∀ scene, (watched.perform scene).1 = (action.perform (plain scene)).1 ∧
    plain (watched.perform scene).2 = (action.perform (plain scene)).2

namespace Shows

theorem pure (a : α) : Shows (Pure.pure a : Action (Watched world) α) (Pure.pure a) :=
  Action.Shows.pure a

theorem throw (failure : Failure) :
    Shows (MonadExcept.throw failure : Action (Watched world) α) (MonadExcept.throw failure) :=
  Action.Shows.throw failure

theorem note (level : Level) (message : Text) (details : Details) :
    Shows (Action.note level message details : Action (Watched world) Unit)
      (Action.note level message details) :=
  Action.Shows.note level message details

theorem unseen (action : Action world α) : Shows (unseen action) action := fun _ => ⟨rfl,rfl⟩

theorem bind {watched : Action (Watched world) α} {action : Action world α}
    {watchedNext : α → Action (Watched world) β} {next : α → Action world β}
    (first : Shows watched action) (following : ∀ a, Shows (watchedNext a) (next a)) :
    Shows (watched >>= watchedNext) (action >>= next) :=
  Action.Shows.bind first following

theorem outcome {watched : Action (Watched world) α} {action : Action world α}
    (shown : Shows watched action) : Shows (Action.outcome watched) (Action.outcome action) :=
  Action.Shows.outcome shown

theorem recorded {watched : Action (Watched world) α} {action : Action world α} (deed : Deed)
    (shown : Shows watched action) : Shows (do record deed; watched) action := by
  intro scene
  exact shown ⟨scene.journal,{scene.world with deeds := scene.world.deeds ++ [deed]}⟩

theorem reading (read : Action world Bytes) : Shows (reading read) read :=
  (unseen read).recorded .reads

theorem calling (handler : Handler world) (body : Bytes) :
    Shows ((calling handler).runBlocking body) (handler.runBlocking body) := by
  unfold Handler.runBlocking
  cases handler with
  | coroutine call =>
    simp only [Watched.calling,Handler.call,Handler.finish,bind_assoc,pure_bind]
    exact ((unseen _).bind fun work => unseen work).recorded (.calls body)
  | function call =>
    simp only [Watched.calling,Handler.call,bind_assoc,pure_bind]
    refine ((unseen _).bind fun work => ?_).recorded (.calls body)
    cases work with
    | none => exact pure ()
    | some work => exact unseen work

theorem reject (failure : Failure) :
    Shows (Ingress.reject failure : Action (Watched world) Status) (Ingress.reject failure) := by
  cases failure with
  | secretMismatch | bodyUnreadable => exact (note _ _ _).bind fun _ => pure _
  | _ => exact throw _

theorem dispatch (handler : Handler world) (body : Bytes) :
    Shows (Ingress.dispatch (Watched.calling handler) body) (Ingress.dispatch handler body) := by
  refine (calling handler body).outcome.bind fun ended => ?_
  cases ended with
  | ok => exact pure _
  | error failure =>
    dsimp only
    split
    · exact (note _ _ _).bind fun _ => pure _
    · exact throw failure

theorem process (ingress : Ingress world) (method : Text) (header : Option Text)
    (read : Action world Bytes) :
    Shows ((serving ingress).process method header (Watched.reading read))
      (ingress.process method header read) := by
  unfold Ingress.process
  cases Ingress.accepts method with
  | false => exact pure _
  | true =>
    simp only [if_true,serving]
    cases Ingress.authenticate ingress.secret header with
    | error failure => exact reject failure
    | ok =>
      refine (reading read).outcome.bind fun ended => ?_
      cases ended with
      | ok body => exact dispatch ingress.handler body
      | error failure =>
        dsimp only
        split
        · exact reject _
        · exact throw failure

end Shows

theorem readingDeeds (read : Action world Bytes) (scene : Scene (Watched world)) :
    ((reading read).perform scene).2.world.deeds = scene.world.deeds ++ [.reads] := rfl

theorem callingDeeds (handler : Handler world) (body : Bytes) (scene : Scene (Watched world)) :
    (((calling handler).runBlocking body).perform scene).2.world.deeds =
      scene.world.deeds ++ [.calls body] := by
  unfold Handler.runBlocking
  cases handler with
  | coroutine call =>
    simp only [calling,Handler.call,bind_assoc,pure_bind,record,unseen,Action.perform_bind,
      Action.perform_change,Action.perform_within]
    rcases (call body).perform ⟨scene.journal,scene.world.world⟩ with ⟨_ | _,_⟩ <;> rfl
  | function call =>
    simp only [calling,Handler.call,bind_assoc,pure_bind,record,unseen,Action.perform_bind,
      Action.perform_change,Action.perform_within]
    rcases (call body).perform ⟨scene.journal,scene.world.world⟩ with ⟨_ | _ | _,_⟩ <;> rfl

end Watched
end BotGateway
