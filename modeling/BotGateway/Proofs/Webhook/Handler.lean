import BotGateway.Proofs.Action
import BotGateway.Webhook.Ingress

/-! The two ways in which a handler is run, and what becomes of the way it ends. A thread waits for
whatever the call hands back; an event loop tells coroutine functions by what they are. -/
namespace BotGateway

namespace Handler
variable {world inner : Type}

theorem runWaitingAlike (handler : Handler world) (body : Bytes) :
    handler.runWaiting body = handler.runBlocking body := by
  unfold runWaiting runBlocking call
  cases handler with
  | coroutine call =>
    -- what was handed back is there to be waited for, so looking at it finds it
    dsimp only
    rw [bind_assoc]
    refine bind_congr fun work => ?_
    rw [pure_bind]
    rfl
  | function call =>
    refine bind_congr fun returned => ?_
    cases returned with
    | none => rfl
    | some work => rfl

theorem withinRuns (view : world → inner) (put : inner → world → world)
    (same : ∀ part whole, view (put part whole) = part)
    (covers : ∀ part other whole, put part (put other whole) = put part whole)
    (handler : Handler inner) (body : Bytes) (scene : Scene world) :
    ((handler.within view put).runBlocking body).perform scene =
      (Action.within view put (handler.runBlocking body)).perform scene := by
  unfold runBlocking within call
  cases handler with
  | coroutine call =>
    simp only [bind_assoc,pure_bind,Action.perform_bind,Action.perform_within]
    rcases (call body).perform ⟨scene.journal,view scene.world⟩ with ⟨_ | work,after⟩
    · rfl
    · simp only [finish,Action.perform_within,same,covers]
  | function call =>
    simp only [bind_pure_comp,bind_map_left,Action.perform_bind,Action.perform_within]
    rcases (call body).perform ⟨scene.journal,view scene.world⟩ with ⟨_ | _ | work,after⟩
    · rfl
    · rfl
    · simp only [Option.map,finish,Action.perform_within,same,covers]

end Handler

namespace Ingress

def answer : Except Failure Unit → Except Failure Status
  | .ok _ => .ok .ok
  | .error failure => if failure.kind.isOrdinary then .ok .serverError else .error failure

theorem dispatchWaitingAlike {world : Type} (handler : Handler world) (body : Bytes) :
    dispatchWaiting handler body = dispatch handler body := by
  unfold dispatchWaiting dispatch
  rw [handler.runWaitingAlike]

-- both sequences are followed at once, step by step, up to the call of the handler
theorem processWaitingAlike {world : Type} (ingress : Ingress world) (method : Text)
    (header : Option Text) (read : Action world Bytes) :
    ingress.processWaiting method header read = ingress.process method header read := by
  unfold processWaiting process
  cases accepts method with
  | false => rfl
  | true =>
    cases authenticate ingress.secret header with
    | error failure => rfl
    | ok =>
      refine bind_congr fun ended => ?_
      cases ended with
      | error failure => rfl
      | ok body => exact dispatchWaitingAlike ingress.handler body

theorem dispatchAnswers {world : Type} (handler : Handler world) (body : Bytes)
    (scene : Scene world) :
    ((dispatch handler body).perform scene).1 =
      answer ((handler.runBlocking body).perform scene).1 ∧
    ((dispatch handler body).perform scene).2.world =
      ((handler.runBlocking body).perform scene).2.world := by
  simp only [dispatch,Action.perform_bind,Action.perform_outcome]
  cases ended : ((handler.runBlocking body).perform scene).1 with
  | ok => exact ⟨rfl,rfl⟩
  | error failure =>
    cases ordinary : failure.kind.isOrdinary with
    | true => simp [ordinary,answer,handlerFailed,Except.map]
    | false => simp [ordinary,answer]

theorem authenticateCases (secret header : Option Text) :
    authenticate secret header = .ok () ∨ authenticate secret header = .error .secretMismatch ∨
    ∃ found, authenticate secret header = .error (.unencodable found) := by
  match secret,header with
  | none,_ | some [],_ => exact .inl rfl
  | some (_ :: _),none => exact .inr (.inl rfl)
  | some (c :: rest),some header =>
    simp only [authenticate,encoded]
    cases Utf8.encode header with
    | error found => exact .inr (.inr ⟨found,rfl⟩)
    | ok given =>
      cases Utf8.encode (c :: rest) with
      | error found => exact .inr (.inr ⟨found,rfl⟩)
      | ok expected =>
        by_cases same : given == expected
        · exact .inl (by simp [bind,Except.bind,same]; rfl)
        · exact .inr (.inl (by simp [bind,Except.bind,same]; rfl))

end Ingress
end BotGateway
