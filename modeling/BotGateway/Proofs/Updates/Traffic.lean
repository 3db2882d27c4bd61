import BotGateway.Proofs.Updates.Reception

/-! A queue fed by a webhook, with requests, stops and consumers in any order. What consumers get are
the updates of the requests that were answered with success, in the order of the answers, and no
consumer is told of the end before all of them were got. -/
namespace BotGateway.WebhookUpdates
variable {site : Type}

inductive Event where
  | request (request : Request)
  | retry (place : Nat)
  | stop
  | settle
  | get

structure Traffic (site : Type) where
  scene : Scene (Station site)
  waiting : List Bytes
  ended : List (Bytes × Except Failure Status)
  got : List (Except Failure (Option Value))

namespace Traffic

def queue (traffic : Traffic site) : UpdateQueue Value := traffic.scene.world.queue

def success? : Bytes × Except Failure Status → Option Bytes
  | (body,.ok .ok) => some body
  | _ => none

def accepted (traffic : Traffic site) : List Bytes := traffic.ended.filterMap success?

def update? : Except Failure (Option Value) → Option Value
  | .ok update => update
  | .error _ => none

def yielded (traffic : Traffic site) : List Value := traffic.got.filterMap update?

def conclude (traffic : Traffic site) (body : Bytes) (result : Except Failure Status)
    (scene : Scene (Station site)) : Traffic site :=
  match result with
  | .error .queueFull => {traffic with scene := scene,waiting := traffic.waiting ++ [body]}
  | _ => {traffic with scene := scene,ended := traffic.ended ++ [(body,result)]}

def changed (traffic : Traffic site) (step : UpdateQueue Value → UpdateQueue Value) : Traffic site :=
  {traffic with scene := ((Station.changeQueue step).perform traffic.scene).2}

def opened (bound : Int) (scene : Scene (Station site)) : Traffic site :=
  (⟨scene,[],[],[]⟩ : Traffic site).changed fun _ => .empty bound

def step (path : Text) (secret : Option Text) (traffic : Traffic site) : Event → Traffic site
  | .request request =>
    let ending := (serve path secret request).perform traffic.scene
    traffic.conclude request.body ending.1 ending.2
  | .retry place =>
    match traffic.waiting[place]? with
    | none => traffic
    | some body =>
      let ending := (WebhookUpdates.retry body).perform traffic.scene
      {traffic with waiting := traffic.waiting.eraseIdx place}.conclude body ending.1 ending.2
  | .stop => traffic.changed UpdateQueue.stop
  | .settle => traffic.changed UpdateQueue.settle
  | .get =>
    let ending := (Station.onQueue UpdateQueue.next).perform traffic.scene
    {traffic with scene := ending.2,got := traffic.got ++ [ending.1]}

def run (path : Text) (secret : Option Text) : Traffic site → List Event → Traffic site :=
  List.foldl (step path secret)

structure Exact (traffic : Traffic site) : Prop where
  sound : traffic.queue.Sound
  balance : traffic.accepted.map (Envelope.readRecord .update) =
    (traffic.yielded ++ traffic.queue.updates).map .ok

theorem exactOpened (bound : Int) (scene : Scene (Station site)) : (opened bound scene).Exact :=
  ⟨UpdateQueue.soundEmpty bound,rfl⟩

variable {traffic : Traffic site} {body other : Bytes} {result : Except Failure Status}
  {status : Status} {scene : Scene (Station site)} {after : UpdateQueue Value}
  {secret : Option Text} {request : Request}

theorem concludeKeeps (traffic : Traffic site) (body : Bytes) (result : Except Failure Status)
    (scene : Scene (Station site)) :
    (traffic.conclude body result scene).queue = scene.world.queue ∧
    (traffic.conclude body result scene).got = traffic.got := by
  unfold conclude
  split <;> exact ⟨rfl,rfl⟩

theorem concludeAccepts (traffic : Traffic site) (body : Bytes) (result : Except Failure Status)
    (scene : Scene (Station site)) : (traffic.conclude body result scene).accepted =
    traffic.accepted ++ (success? (body,result)).toList := by
  unfold conclude accepted
  split
  · simp [success?]
  · cases h : success? (body,result) <;> simp [h]

theorem concludeEnds (answered : (traffic.conclude body result scene).ended =
    traffic.ended ++ [(other,.ok status)]) : other = body ∧ result = .ok status := by
  unfold conclude at answered
  split at answered
  · simp at answered
  · simpa [eq_comm] using answered

theorem exactSame (exactly : traffic.Exact) (same : scene.world.queue = traffic.queue)
    (unsuccessful : success? (body,result) = none) : (traffic.conclude body result scene).Exact := by
  obtain ⟨queue,got⟩ := concludeKeeps traffic body result scene
  have accepted := concludeAccepts traffic body result scene
  rw [same] at queue
  rw [unsuccessful,Option.toList_none,List.append_nil] at accepted
  refine ⟨by rw [queue]; exact exactly.sound,?_⟩
  rw [accepted,queue,yielded,got]
  exact exactly.balance

theorem exactHandled (exactly : traffic.Exact) (handled : Handled traffic.queue body result after)
    (left : scene.world.queue = after) : (traffic.conclude body result scene).Exact := by
  cases handled with
  | @accepted update decoded running room =>
    obtain ⟨queue,got⟩ := concludeKeeps traffic body (.ok .ok) scene
    have accepted := concludeAccepts traffic body (.ok .ok) scene
    rw [left] at queue
    refine ⟨by rw [queue]; exact UpdateQueue.soundAccepted exactly.sound _ running room,?_⟩
    rw [accepted,queue,UpdateQueue.updatesAppend,yielded,got]
    simp [success?,decoded,exactly.balance,yielded]
  | waiting => exact exactSame exactly left rfl
  | failed => exact exactSame exactly left rfl

theorem exactServed (exactly : traffic.Exact) (served : Served secret request traffic.queue result after)
    (left : scene.world.queue = after) : (traffic.conclude request.body result scene).Exact := by
  cases served with
  | handled handled => exact exactHandled exactly handled left
  | wrongMethod => exact exactSame exactly left rfl
  | unauthorized => exact exactSame exactly left rfl
  | unencodable => exact exactSame exactly left rfl

theorem exactChanged {step : UpdateQueue Value → UpdateQueue Value} (exactly : traffic.Exact)
    (sound : (step traffic.queue).Sound)
    (same : (step traffic.queue).updates = traffic.queue.updates) : (traffic.changed step).Exact := by
  refine ⟨sound,?_⟩
  show traffic.accepted.map _ = (traffic.yielded ++ (step traffic.queue).updates).map Except.ok
  rw [same]
  exact exactly.balance

theorem getStep (path : Text) (secret : Option Text) (traffic : Traffic site) :
    (traffic.step path secret .get).queue = traffic.queue.get.2 ∧
    (traffic.step path secret .get).got = traffic.got ++ [traffic.queue.get.1.told] := by
  simp only [step,Station.onQueue,Action.perform_within,UpdateQueue.nextTakes]
  exact ⟨rfl,rfl⟩

theorem exactStep (path : Text) (secret : Option Text) (exactly : traffic.Exact) (event : Event) :
    (traffic.step path secret event).Exact := by
  cases event with
  | request request =>
    exact exactServed exactly (serveServed path secret request traffic.scene) rfl
  | retry place =>
    simp only [step]
    split
    · exact exactly
    · rename_i body found
      have same : {traffic with waiting := traffic.waiting.eraseIdx place}.Exact :=
        ⟨exactly.sound,exactly.balance⟩
      exact exactHandled same (retryHandled body traffic.scene) rfl
  | stop =>
    refine exactChanged exactly (UpdateQueue.soundStop exactly.sound) ?_
    rw [UpdateQueue.updates,(UpdateQueue.stopKeeps traffic.queue).1,UpdateQueue.updates]
  | settle =>
    exact exactChanged exactly (UpdateQueue.soundSettle exactly.sound)
      (UpdateQueue.updatesSettle traffic.queue)
  | get =>
    obtain ⟨queue,got⟩ := getStep path secret traffic
    refine ⟨by rw [queue]; exact UpdateQueue.soundGet exactly.sound,?_⟩
    show traffic.accepted.map _ = _
    rw [exactly.balance,queue,yielded,yielded,got]
    obtain ⟨value,rest,first,h⟩ | ⟨_,_,h⟩ | ⟨_,h⟩ := exactly.sound.getCases
    · rw [h,UpdateQueue.updatesTaken first]
      simp [UpdateQueue.Taken.told,update?]
    · simp [h,UpdateQueue.Taken.told,update?]
    · simp [h,UpdateQueue.Taken.told,update?]

theorem exactRun (path : Text) (secret : Option Text) (exactly : traffic.Exact) (events : List Event) :
    (traffic.run path secret events).Exact := by
  induction events generalizing traffic with
  | nil => exact exactly
  | cons event rest ih => exact ih (exactStep path secret exactly event)

theorem drained (path : Text) (secret : Option Text) (exactly : traffic.Exact) :
    (traffic.run path secret (List.replicate traffic.queue.updates.length .get)).queue.updates = [] ∧
    (traffic.run path secret (List.replicate traffic.queue.updates.length .get)).accepted =
      traffic.accepted := by
  generalize count : traffic.queue.updates.length = n
  induction n generalizing traffic with
  | zero => exact ⟨List.length_eq_zero_iff.mp count,rfl⟩
  | succ n ih =>
    have left : (traffic.step path secret .get).queue.updates.length = n := by
      rw [(getStep path secret traffic).1]
      obtain ⟨value,rest,first,h⟩ | ⟨none,_,_⟩ | ⟨none,_⟩ := exactly.sound.getCases
      · rw [UpdateQueue.updatesTaken first,List.length_cons] at count
        rw [h]
        exact Nat.succ.inj count
      · simp [none] at count
      · simp [none] at count
    exact ih (exactStep path secret exactly .get) left

theorem failedStep (path : Text) (secret : Option Text) (event : Event)
    (failed : (traffic.step path secret event).ended = traffic.ended ++ [(body,.ok .serverError)]) :
    (traffic.step path secret event).queue = traffic.queue ∧
    (traffic.step path secret event).got = traffic.got ∧
    (traffic.queue.stopped = true ∨ ∃ failure, Envelope.readRecord .update body = .error failure) := by
  have unanswered {ended : List (Bytes × Except Failure Status)} {entry}
      (same : ended = ended ++ [entry]) : False := by
    simpa using congrArg List.length same
  cases event with
  | request request =>
    obtain ⟨rfl,status⟩ := concludeEnds failed
    have served := serveServed path secret request traffic.scene
    rw [status] at served
    obtain ⟨same,cause⟩ := served.failure
    obtain ⟨queue,got⟩ := concludeKeeps traffic request.body _ _
    exact ⟨queue.trans same,got,cause⟩
  | retry place =>
    simp only [step] at failed ⊢
    split at failed
    · exact (unanswered failed).elim
    · rename_i waited found
      obtain ⟨rfl,status⟩ := concludeEnds failed
      have handled := retryHandled body traffic.scene
      rw [status] at handled
      obtain ⟨same,cause⟩ := handled.failure
      obtain ⟨queue,got⟩ := concludeKeeps {traffic with waiting := traffic.waiting.eraseIdx place} body _ _
      exact ⟨queue.trans same,got,cause⟩
  | stop => exact (unanswered failed).elim
  | settle => exact (unanswered failed).elim
  | get => exact (unanswered failed).elim

theorem refusedStep (path : Text) (posted : Ingress.accepts request.method = true)
    (passed : Ingress.authenticate secret request.header = .ok ())
    (cause : traffic.queue.stopped = true ∨
      ∃ failure, Envelope.readRecord .update request.body = .error failure) :
    (traffic.step path secret (.request request)).ended =
      traffic.ended ++ [(request.body,.ok .serverError)] := by
  have handled := handlerHandled path request.body traffic.scene
  rw [← admitted posted passed] at handled
  have status := handled.refused cause
  simp only [step,conclude,status]

theorem endedStep (path : Text) (secret : Option Text) (exactly : traffic.Exact) (event : Event)
    (told : (traffic.step path secret event).got = traffic.got ++ [.ok none]) :
    (traffic.step path secret event).queue.updates = [] := by
  have unasked {got : List (Except Failure (Option Value))} {entry}
      (same : got = got ++ [entry]) : False := by
    simpa using congrArg List.length same
  cases event with
  | request request =>
    simp only [step,(concludeKeeps traffic _ _ _).2] at told
    exact (unasked told).elim
  | retry place =>
    simp only [step] at told
    split at told
    · exact (unasked told).elim
    · simp only [(concludeKeeps _ _ _ _).2] at told
      exact (unasked told).elim
  | stop => exact (unasked told).elim
  | settle => exact (unasked told).elim
  | get =>
    obtain ⟨queue,got⟩ := getStep path secret traffic
    rw [got] at told
    obtain ⟨value,rest,_,h⟩ | ⟨none,_,h⟩ | ⟨none,h⟩ := exactly.sound.getCases
    · simp [h,UpdateQueue.Taken.told] at told
    · rw [queue,h]
      exact none
    · simp [h,UpdateQueue.Taken.told] at told

theorem yieldsTheAnswered (path : Text) (secret : Option Text) (bound : Int)
    (scene : Scene (Station site)) (events : List Event) :
    let traffic := (opened bound scene).run path secret events
    let drained := traffic.run path secret (List.replicate traffic.queue.updates.length .get)
    traffic.accepted.map (Envelope.readRecord .update) =
      (traffic.yielded ++ traffic.queue.updates).map .ok ∧
    (drained.accepted = traffic.accepted ∧
      drained.accepted.map (Envelope.readRecord .update) = drained.yielded.map .ok) ∧
    ∀ event, let after := traffic.step path secret event
      (∀ body, after.ended = traffic.ended ++ [(body,.ok .serverError)] →
        after.queue = traffic.queue ∧ after.got = traffic.got ∧
        (traffic.queue.stopped = true ∨
          ∃ failure, Envelope.readRecord .update body = .error failure)) ∧
      (∀ request, event = .request request → Ingress.accepts request.method = true →
        Ingress.authenticate secret request.header = .ok () →
        (traffic.queue.stopped = true ∨
          ∃ failure, Envelope.readRecord .update request.body = .error failure) →
        after.ended = traffic.ended ++ [(request.body,.ok .serverError)]) ∧
      (after.got = traffic.got ++ [.ok none] →
        after.accepted.map (Envelope.readRecord .update) = after.yielded.map .ok) := by
  intro traffic drained
  have exactly : traffic.Exact := exactRun path secret (exactOpened bound scene) events
  refine ⟨exactly.balance,⟨(Traffic.drained path secret exactly).2,?_⟩,?_⟩
  · have last := exactRun path secret exactly (List.replicate traffic.queue.updates.length .get)
    rw [last.balance,(Traffic.drained path secret exactly).1,List.append_nil]
  · intro event after
    refine ⟨fun body failed => failedStep path secret event failed,?_,?_⟩
    · rintro request rfl posted passed cause
      exact refusedStep path posted passed cause
    · intro told
      rw [(exactStep path secret exactly event).balance,endedStep path secret exactly event told,
        List.append_nil]

end Traffic
end BotGateway.WebhookUpdates
