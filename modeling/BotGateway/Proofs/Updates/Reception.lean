import BotGateway.Proofs.Schema.Endings
import BotGateway.Proofs.Updates.Queue
import BotGateway.Proofs.Webhook.Handler
import BotGateway.Updates.Webhook

/-! One request to a webhook that feeds a queue: how it ends, and what it leaves in the queue. Only a
request that is answered with success puts an update there, and none changes anything else. -/
namespace BotGateway.WebhookUpdates
variable {site : Type}

structure Request where
  onLoop : Bool
  method : Text
  header : Option Text
  body : Bytes

def serve (path : Text) (secret : Option Text) (request : Request) : Action (Station site) Status :=
  let ingress : Ingress (Station site) := ⟨handler path,secret⟩
  if request.onLoop then ingress.processWaiting request.method request.header (return request.body)
  else ingress.process request.method request.header (return request.body)

def retry (body : Bytes) : Action (Station site) Status :=
  Ingress.dispatch (.direct fun body => Station.onQueue (resume body)) body

inductive Handled (queue : UpdateQueue Value) (body : Bytes) :
    Except Failure Status → UpdateQueue Value → Prop where
  | accepted {update} (decoded : Envelope.readRecord .update body = .ok update)
      (running : queue.stopped = false) (room : queue.hasRoom = true) :
      Handled queue body (.ok .ok) {queue with slots := queue.slots ++ [.update update]}
  | waiting {update} (decoded : Envelope.readRecord .update body = .ok update)
      (running : queue.stopped = false) (full : queue.hasRoom = false) :
      Handled queue body (.error .queueFull) queue
  | failed (cause : queue.stopped = true ∨
        ∃ failure, Envelope.readRecord .update body = .error failure) :
      Handled queue body (.ok .serverError) queue

theorem readFails {body failure} (failed : Envelope.readRecord .update body = .error failure) :
    failure.kind.isOrdinary = true := by
  unfold Envelope.readRecord at failed
  split at failed
  · cases failed
    rfl
  · obtain ⟨report,rfl⟩ | ends := Shape.validateFails Value.inheritedTrivial trivial failed
    · rfl
    · exact VariantSet.endsOrdinary ends

section Handling
variable (journal : Journal) (queue : UpdateQueue Value)

theorem putHandled {body update} (decoded : Envelope.readRecord .update body = .ok update) :
    Handled queue body (Ingress.answer ((UpdateQueue.put refusal update).perform ⟨journal,queue⟩).1)
      ((UpdateQueue.put refusal update).perform ⟨journal,queue⟩).2.world := by
  simp only [UpdateQueue.put,Action.perform_bind,Action.perform_current,Action.perform_change]
  obtain ⟨stopped,h⟩ | ⟨running,room,h⟩ | ⟨running,full,h⟩ := queue.offerCases update
  · rw [h]
    exact .failed (.inl stopped)
  · rw [h]
    exact .accepted decoded running room
  · rw [h]
    exact .waiting decoded running full

theorem resumeHandled (body : Bytes) :
    Handled queue body (Ingress.answer ((resume body).perform ⟨journal,queue⟩).1)
      ((resume body).perform ⟨journal,queue⟩).2.world := by
  unfold resume
  cases decoded : Envelope.readRecord .update body with
  | ok update => exact putHandled journal queue decoded
  | error failure =>
    simp only [Action.perform_throw,Ingress.answer,readFails decoded,if_true]
    exact .failed (.inr ⟨failure,decoded⟩)

theorem receiveHandled (path : Text) (body : Bytes) :
    Handled queue body (Ingress.answer ((receive path body).perform ⟨journal,queue⟩).1)
      ((receive path body).perform ⟨journal,queue⟩).2.world := by
  simp only [receive,Action.perform_bind,Action.perform_current]
  cases stopped : queue.stopped with
  | true => exact .failed (.inl stopped)
  | false =>
    simp only [decode,Bool.false_eq_true,if_false,Action.perform_bind,Action.perform_note]
    cases decoded : Envelope.readRecord .update body with
    | ok update =>
      simp only [Action.perform_pure]
      exact putHandled _ queue decoded
    | error failure =>
      have failed : Handled queue body (.ok .serverError) queue := .failed (.inr ⟨failure,decoded⟩)
      have ordinary := readFails decoded
      cases failure with
      | invalid report =>
        simp only [Action.perform_bind,Action.perform_note,Action.perform_throw]
        exact failed
      | _ =>
        simp only [Action.perform_throw,Ingress.answer,ordinary,if_true]
        exact failed

end Handling

theorem dispatchHandled {handler : Handler (Station site)}
    {work : Action (UpdateQueue Value) Unit} {body : Bytes} {scene : Scene (Station site)}
    (ends : ((handler.runBlocking body).perform scene).1 =
      (work.perform ⟨scene.journal,scene.world.queue⟩).1)
    (leaves : ((handler.runBlocking body).perform scene).2.world.queue =
      (work.perform ⟨scene.journal,scene.world.queue⟩).2.world)
    (handled : Handled scene.world.queue body
      (Ingress.answer (work.perform ⟨scene.journal,scene.world.queue⟩).1)
      (work.perform ⟨scene.journal,scene.world.queue⟩).2.world) :
    Handled scene.world.queue body ((Ingress.dispatch handler body).perform scene).1
      ((Ingress.dispatch handler body).perform scene).2.world.queue := by
  obtain ⟨status,world⟩ := Ingress.dispatchAnswers handler body scene
  rw [status,world,ends,leaves]
  exact handled

theorem retryHandled (body : Bytes) (scene : Scene (Station site)) :
    Handled scene.world.queue body ((retry body).perform scene).1
      ((retry body).perform scene).2.world.queue := by
  refine dispatchHandled ?_ ?_ (resumeHandled _ _ body)
  all_goals
    simp only [Handler.direct,Handler.runBlocking,Handler.call,Station.onQueue,Action.perform_bind,
      Action.perform_within]
    rcases (resume body).perform ⟨scene.journal,scene.world.queue⟩ with ⟨_ | _,_⟩ <;> rfl

theorem handlerHandled (path : Text) (body : Bytes) (scene : Scene (Station site)) :
    Handled scene.world.queue body
      ((Ingress.dispatch (handler path) body).perform scene).1
      ((Ingress.dispatch (handler path) body).perform scene).2.world.queue := by
  refine dispatchHandled ?_ ?_ (receiveHandled _ _ path body)
  all_goals
    simp only [handler,Handler.within,Handler.direct,Handler.runBlocking,Handler.call,
      Action.perform_bind,Action.perform_within,bind_pure_comp,Action.perform_map]
    rcases (receive path body).perform ⟨scene.journal,scene.world.queue⟩ with ⟨_ | _,_⟩ <;> rfl

inductive Served (secret : Option Text) (request : Request) (queue : UpdateQueue Value) :
    Except Failure Status → UpdateQueue Value → Prop where
  | wrongMethod (other : Ingress.accepts request.method = false) :
      Served secret request queue (.ok .methodNotAllowed) queue
  | unauthorized (refused : Ingress.authenticate secret request.header = .error .secretMismatch) :
      Served secret request queue (.ok .unauthorized) queue
  | unencodable {found}
      (refused : Ingress.authenticate secret request.header = .error (.unencodable found)) :
      Served secret request queue (.error (.unencodable found)) queue
  | handled {result after} (handled : Handled queue request.body result after) :
      Served secret request queue result after

theorem serveBlocking (path : Text) (secret : Option Text) (request : Request) :
    (serve path secret request : Action (Station site) Status) =
      Ingress.process ⟨handler path,secret⟩ request.method request.header (return request.body) := by
  unfold serve
  dsimp only
  rw [Ingress.processWaitingAlike,ite_self]

theorem admitted {path : Text} {secret : Option Text} {request : Request}
    (posted : Ingress.accepts request.method = true)
    (passed : Ingress.authenticate secret request.header = .ok ()) (scene : Scene (Station site)) :
    (serve path secret request).perform scene =
      (Ingress.dispatch (handler path) request.body).perform scene := by
  simp only [serveBlocking,Ingress.process,posted,passed,if_true,
    Action.perform_bind,Action.perform_outcome,Action.perform_pure]

theorem serveServed (path : Text) (secret : Option Text) (request : Request)
    (scene : Scene (Station site)) :
    Served secret request scene.world.queue ((serve path secret request).perform scene).1
      ((serve path secret request).perform scene).2.world.queue := by
  cases posted : Ingress.accepts request.method with
  | false =>
    simp only [serveBlocking,Ingress.process,posted,Bool.false_eq_true,if_false,
      Action.perform_pure]
    exact .wrongMethod posted
  | true =>
    obtain passed | refused | ⟨found,refused⟩ := Ingress.authenticateCases secret request.header
    · rw [admitted posted passed scene]
      exact .handled (handlerHandled path request.body scene)
    · simp only [serveBlocking,Ingress.process,posted,refused,if_true,
        Ingress.reject,Action.perform_bind,Action.perform_note,Action.perform_pure]
      exact .unauthorized refused
    · simp only [serveBlocking,Ingress.process,posted,refused,if_true,
        Ingress.reject,Action.perform_throw]
      exact .unencodable refused

section Failure
variable {secret : Option Text} {request : Request} {queue after : UpdateQueue Value} {body : Bytes}

theorem Handled.failure (handled : Handled queue body (.ok .serverError) after) : after = queue ∧
    (queue.stopped = true ∨ ∃ failure, Envelope.readRecord .update body = .error failure) := by
  cases handled with
  | failed cause => exact ⟨rfl,cause⟩

theorem Served.failure (served : Served secret request queue (.ok .serverError) after) :
    after = queue ∧ (queue.stopped = true ∨
      ∃ failure, Envelope.readRecord .update request.body = .error failure) := by
  cases served with
  | handled handled => exact handled.failure

theorem Handled.refused {result} (handled : Handled queue body result after)
    (cause : queue.stopped = true ∨ ∃ failure, Envelope.readRecord .update body = .error failure) :
    result = .ok .serverError := by
  cases handled with
  | failed => rfl
  | accepted decoded running =>
    rcases cause with stopped | ⟨failure,failed⟩
    · simp [running] at stopped
    · simp [decoded] at failed
  | waiting decoded running =>
    rcases cause with stopped | ⟨failure,failed⟩
    · simp [running] at stopped
    · simp [decoded] at failed

end Failure

end BotGateway.WebhookUpdates
