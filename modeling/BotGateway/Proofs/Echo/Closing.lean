import BotGateway.Echo
import BotGateway.Proofs.Client.Call
import BotGateway.Proofs.Request.Encoding
import BotGateway.Proofs.Updates.Queue

/-! How a run of the bot closes. The queue is stopped before the server is; the webhook is deleted, once,
where the server had started and then stopped without a failure. -/
namespace BotGateway
open BotGateway.Action

namespace Client

def deletes (client : Client) (post : Post) : Bool :=
  post.url == client.methodUrl Method.deleteWebhook.endpoint

def deletions (client : Client) (line : Line) : Nat := line.sent.countP client.deletes

def Spares (client : Client) (line : world → Line) (action : Action world α) : Prop :=
  ∀ scene, client.deletions (line (action.perform scene).2.world) = client.deletions (line scene.world)

section Spares
variable {world α β : Type} {client : Client} {line : world → Line} {action : Action world α}

theorem sparesSent (kept : ∀ scene, (line (action.perform scene).2.world).sent = (line scene.world).sent) :
    client.Spares line action := by
  intro scene
  rw [deletions,kept,deletions]

theorem sparesBind {next : α → Action world β} (first : client.Spares line action)
    (later : ∀ a, client.Spares line (next a)) : client.Spares line (action >>= next) := by
  intro scene
  have begun := first scene
  rw [perform_bind]
  generalize action.perform scene = ended at begun ⊢
  rcases ended with ⟨failure | a,after⟩
  · exact begun
  · exact (later a after).trans begun

theorem sparesOutcome (spares : client.Spares line action) : client.Spares line (outcome action) :=
  spares

theorem sparesOutside (site : Type) {action : Action Outside α} (spares : client.Spares Outside.line action) :
    client.Spares (fun station : Station site => station.outside.line) (Station.onOutside action) :=
  fun scene => spares ⟨scene.journal,scene.world.outside⟩

theorem sparesInvoke (client : Client) {method : Method}
    (other : method.endpoint ≠ Method.deleteWebhook.endpoint) (places : List Value)
    (named : List (Text × Value)) : client.Spares Outside.line (client.invoke method places named) := by
  intro scene
  obtain ⟨posts,sent,urls⟩ := client.invokePosts method places named scene
  have none : posts.countP client.deletes = 0 := by
    refine List.countP_eq_zero.mpr fun post member => ?_
    simp [deletes,urls post member,methodUrlSame,other]
  rw [deletions,sent,List.countP_append,none]
  rfl

end Spares

theorem deletionBody (boundary : Text) (scene : Scene Shelf) :
    (Payload.encode boundary (.map [(.text "drop_pending_updates",.null)])).perform scene =
      (.ok ⟨Payload.documentType,ascii "\x7b\x7d"⟩,scene) := by
  rw [Payload.encodeShown rfl,Payload.encodedDocument rfl]
  rfl

theorem deletionPosted (client : Client) (scene : Scene Outside) :
    client.deletions ((client.invoke Method.deleteWebhook [] []).perform scene).2.world.line =
      client.deletions scene.world.line + 1 := by
  obtain ⟨journal,ends⟩ := callSent (deletionBody client.boundary ⟨scene.journal,scene.world.shelf⟩)
  have bound : Method.deleteWebhook.bind [] [] = .ok (.map [(.text "drop_pending_updates",.null)]) := rfl
  rw [invoke,bound]
  dsimp only
  rw [ends]
  simp [deletions,Line.after,deletes,post]

end Client

structure Server.Quiet {site : Type} (server : Server (Station site)) : Prop where
  registers : ∀ path ingress scene, ((server.register path ingress).perform scene).2.world.outside.line.sent =
    scene.world.outside.line.sent
  starts : ∀ address scene, ((server.start address).perform scene).2.world.outside.line.sent =
    scene.world.outside.line.sent
  stops : ∀ timeout scene, ((server.stop timeout).perform scene).2.world.outside.line.sent =
    scene.world.outside.line.sent

def Server.heeding {site : Type} (instead : Value → Action (Station site) Value)
    (server : Server (Station site)) : Server (Station site) :=
  {server with stop := fun timeout => do
    if (← current).queue.stopped then server.stop timeout else instead timeout}

namespace Echo
variable {site : Type} {client : Client} {server : Server (Station site)} {settings : Settings}
  {courseOf : UpdateQueue Value → Course} {ending : Except Failure Unit} {timeout : Value} {boundary : Text}
  {serverOf : Backend → Server (Station site)} {scene told : Scene (Station site)}

def line (station : Station site) : Line := station.outside.line

theorem sparesNoteFailure (chat : Value) (failure : Failure) :
    client.Spares Outside.line (noteFailure chat failure) := by
  unfold noteFailure
  split
  · exact fun _ => rfl
  · split <;> exact fun _ => rfl

theorem sparesAnswer (update : Value) : client.Spares Outside.line (answer client update) := by
  unfold answer
  split
  · exact fun _ => rfl
  · refine Client.sparesBind (Client.sparesOutcome (client.sparesInvoke (by decide) _ _)) fun ended => ?_
    cases ended with
    | ok value => exact fun _ => rfl
    | error failure => exact sparesNoteFailure _ failure

theorem sparesAnswerAlong (course : Course) :
    client.Spares (line : Station site → Line) (answerAlong client course) := by
  induction course with
  | nil => exact fun _ => rfl
  | cons others course ih =>
    refine Client.sparesBind (fun _ => rfl) fun station => ?_
    dsimp only
    refine Client.sparesBind (fun _ => rfl) fun _ => ?_
    split
    · exact Client.sparesBind (Client.sparesOutside site (sparesAnswer _)) fun _ => ih
    · exact ih
    · exact fun _ => rfl

theorem sparesServe : client.Spares (line : Station site → Line) (serve client courseOf ending) := by
  unfold serve
  refine Client.sparesBind (fun _ => rfl) fun station => ?_
  refine Client.sparesBind (Client.sparesOutcome ?_) fun ended => ?_
  · refine Client.sparesBind (sparesAnswerAlong _) fun _ => ?_
    cases ending <;> exact fun _ => rfl
  · cases ended with
    | ok done => exact fun _ => rfl
    | error failure =>
      dsimp only
      split <;> exact fun _ => rfl

theorem createKeeps {token apiUrl : Text} {result : Except Failure Client} {after : Scene (Station site)}
    (made : (Client.create token apiUrl timeout boundary).perform scene = (result,after)) :
    after.world = scene.world := by
  unfold Client.create at made
  split at made <;> cases made <;> rfl

theorem sparesAuthorise {after : Scene (Station site)}
    (authorised : (authorise settings timeout boundary).perform scene = (.ok client,after)) :
    client.deletions (line after.world) = client.deletions (line scene.world) := by
  unfold authorise at authorised
  split at authorised
  · cases authorised
  · rw [perform_bind] at authorised
    split at authorised
    · rename_i found mid made
      rw [perform_bind] at authorised
      split at authorised
      · rename_i me last got
        cases authorised
        have getMe : Method.getMe.endpoint ≠ Method.deleteWebhook.endpoint := by decide
        have spares := Client.sparesOutside site (client.sparesInvoke getMe [] []) mid
        rw [got,createKeeps made] at spares
        exact spares
      · cases authorised
    · cases authorised

theorem sparesAnnounce (client : Client) (secret publicUrl allowed : Value) :
    client.Spares (line : Station site → Line)
      (WebhookUpdates.announce client secret publicUrl allowed) := by
  unfold WebhookUpdates.announce
  split
  · exact Client.sparesBind (Client.sparesOutside site (client.sparesInvoke (by decide) _ _)) fun _ _ => rfl
  · exact fun _ => rfl

def announcing (settings : Settings) (timeout : Value) (boundary : Text) :
    Action (Station site) Client := do
  let client ← authorise settings timeout boundary
  WebhookUpdates.announce client (Client.textValue settings.secret)
    (Client.textValue settings.publicUrl) .null
  return client

structure Announced (settings : Settings) (timeout : Value) (boundary : Text)
    (serverOf : Backend → Server (Station site)) (scene : Scene (Station site)) (client : Client)
    (server : Server (Station site)) (told : Scene (Station site)) : Prop where
  published : isSet settings.publicUrl = true
  made : createServer settings serverOf = .ok server
  called : (announcing settings timeout boundary).perform scene = (.ok client,told)

theorem announcingStages (called : (announcing settings timeout boundary).perform scene = (.ok client,told)) :
    ∃ mid, (authorise settings timeout boundary).perform scene = (.ok client,mid) ∧
      (WebhookUpdates.announce client (Client.textValue settings.secret)
        (Client.textValue settings.publicUrl) .null).perform mid = (.ok (),told) := by
  rw [announcing,perform_bind] at called
  split at called
  · rename_i found mid authorised
    rw [perform_bind] at called
    split at called
    · rename_i done last announces
      cases called
      exact ⟨mid,authorised,announces⟩
    · cases called
  · cases called

theorem announcedDeletions (announced : Announced settings timeout boundary serverOf scene client server told) :
    client.deletions (line told.world) = client.deletions (line scene.world) := by
  obtain ⟨mid,authorised,announces⟩ := announcingStages announced.called
  have spares := sparesAnnounce client (Client.textValue settings.secret)
    (Client.textValue settings.publicUrl) .null mid
  rw [announces] at spares
  exact spares.trans (sparesAuthorise authorised)

def opening (server : Server (Station site)) (settings : Settings) : Action (Station site) Value :=
  WebhookUpdates.create server settings.path (Client.textValue settings.secret).text?
    WebhookUpdates.defaultBuffer >>= fun _ => server.start settings.address

theorem announcedRun (announced : Announced settings timeout boundary serverOf scene client server told) :
    (runAlong courseOf ending settings timeout boundary serverOf).perform scene =
      (opening server settings >>= fun _ =>
        closing (serve client courseOf ending) (shutDown client server settings)).perform told := by
  obtain ⟨mid,authorised,announces⟩ := announcingStages announced.called
  rw [runAlong,perform_bind,authorised]
  dsimp only
  rw [perform_bind,announced.made,perform_ofExcept]
  simp only [listen,WebhookUpdates.ofClient,opening,bind_assoc,pure_bind]
  rw [perform_bind,announces]

def halted (client : Client) (courseOf : UpdateQueue Value → Course) (ending : Except Failure Unit)
    (started : Scene (Station site)) :
    Scene (Station site) :=
  ((Station.changeQueue UpdateQueue.stop).perform ((serve client courseOf ending).perform started).2).2

def Closes (courseOf : UpdateQueue Value → Course) (ending : Except Failure Unit) (client : Client)
    (server : Server (Station site))
    (settings : Settings) (told : Scene (Station site)) : Prop :=
  ∃ opened started closed stopped, (opening server settings).perform told = (.ok opened,started) ∧
    (server.stop stopTimeout).perform (halted client courseOf ending started) = (.ok closed,stopped)

theorem closingHalted (started : Scene (Station site)) :
    (closing (serve client courseOf ending) (shutDown client server settings)).perform started =
      (closing (MonadExcept.ofExcept ((serve client courseOf ending).perform started).1)
        (release client server settings)).perform (halted client courseOf ending started) := by
  have releases : (shutDown client server settings).perform ((serve client courseOf ending).perform started).2 =
      (release client server settings).perform (halted client courseOf ending started) := by
    rw [shutDown,perform_bind,halted,Station.changeQueue,perform_change]
  rw [perform_closing,perform_closing,perform_ofExcept,releases]

theorem haltedDeletions (started : Scene (Station site)) :
    client.deletions (line (halted client courseOf ending started).world) =
      client.deletions (line started.world) :=
  sparesServe started

theorem releasedDeletions (client : Client) (quiet : server.Quiet) (published : isSet settings.publicUrl = true)
    (still : Scene (Station site)) :
    client.deletions (line ((release client server settings).perform still).2.world) =
      client.deletions (line still.world) +
        match ((server.stop stopTimeout).perform still).1 with
        | .ok _ => 1
        | .error _ => 0 := by
  have spares : client.Spares line (server.stop stopTimeout) := Client.sparesSent (quiet.stops stopTimeout)
  have kept := spares still
  rw [release,perform_bind]
  generalize (server.stop stopTimeout).perform still = ended at kept ⊢
  rcases ended with ⟨failure | closed,stopped⟩
  · exact kept
  · dsimp only at kept ⊢
    rw [← kept,if_pos published,bind_pure_comp,perform_map]
    exact Client.deletionPosted client ⟨stopped.journal,stopped.world.outside⟩

theorem sparesOpening (client : Client) (settings : Settings) (quiet : server.Quiet) :
    client.Spares line (opening server settings) := by
  refine Client.sparesBind ?_ fun _ => Client.sparesSent (quiet.starts _)
  refine Client.sparesBind (fun _ => rfl) fun _ => ?_
  exact Client.sparesBind (Client.sparesSent (quiet.registers _ _)) fun _ _ => rfl

theorem openedDeletions (client : Client) (courseOf : UpdateQueue Value → Course)
    (ending : Except Failure Unit) (quiet : server.Quiet) (published : isSet settings.publicUrl = true)
    (told : Scene (Station site)) :
    let last := ((opening server settings >>= fun _ =>
      closing (serve client courseOf ending) (shutDown client server settings)).perform told).2
    (Closes courseOf ending client server settings told ∧
      client.deletions (line last.world) = client.deletions (line told.world) + 1) ∨
    (¬Closes courseOf ending client server settings told ∧
      client.deletions (line last.world) = client.deletions (line told.world)) := by
  have opens := sparesOpening client settings quiet told
  rw [perform_bind]
  rcases outcome : (opening server settings).perform told with ⟨failure | opened,started⟩
  · rw [outcome] at opens
    refine .inr ⟨?_,opens⟩
    rintro ⟨_,_,_,_,again,_⟩
    cases outcome.symm.trans again
  · rw [outcome] at opens
    have ends := releasedDeletions client quiet published (halted client courseOf ending started)
    rw [haltedDeletions,opens] at ends
    dsimp only
    rw [closingHalted,closingEnds,perform_ofExcept]
    rcases stopping : (server.stop stopTimeout).perform (halted client courseOf ending started) with
      ⟨failure | closed,stopped⟩
    · rw [stopping] at ends
      refine .inr ⟨?_,ends⟩
      rintro ⟨_,_,_,_,again,stops⟩
      cases outcome.symm.trans again
      cases stopping.symm.trans stops
    · rw [stopping] at ends
      exact .inl ⟨⟨_,_,_,_,outcome,stopping⟩,ends⟩

theorem heedingStop (instead : Value → Action (Station site) Value) {still : Scene (Station site)}
    (stopped : still.world.queue.stopped = true) (timeout : Value) :
    ((server.heeding instead).stop timeout).perform still = (server.stop timeout).perform still := by
  rw [Server.heeding,perform_bind,perform_current]
  dsimp only
  rw [if_pos stopped]

theorem heedingShutDown (instead : Value → Action (Station site) Value) (still : Scene (Station site)) :
    (shutDown client (server.heeding instead) settings).perform still =
      (shutDown client server settings).perform still := by
  rw [shutDown,shutDown,perform_bind,perform_bind,Station.changeQueue,perform_change]
  dsimp only
  rw [release,release,perform_bind,perform_bind,heedingStop instead (UpdateQueue.stopKeeps _).2.2.2]

theorem heedingRun (instead : Value → Action (Station site) Value) :
    (runAlong courseOf ending settings timeout boundary fun backend =>
        (serverOf backend).heeding instead).perform scene =
      (runAlong courseOf ending settings timeout boundary serverOf).perform scene := by
  have closes (client : Client) (server : Server (Station site)) :
      closing (serve client courseOf ending) (shutDown client (server.heeding instead) settings) =
        closing (serve client courseOf ending) (shutDown client server settings) := by
    funext started
    show (closing _ _).perform started = (closing _ _).perform started
    rw [perform_closing,perform_closing,heedingShutDown]
  have serves (client : Client) (server : Server (Station site)) :
      (listen client (server.heeding instead) settings >>= fun _ =>
        closing (serve client courseOf ending) (shutDown client (server.heeding instead) settings)) =
      (listen client server settings >>= fun _ =>
        closing (serve client courseOf ending) (shutDown client server settings)) := by
    rw [closes]
    rfl
  unfold runAlong createServer
  cases Backend.create settings.backend with
  | error failure => rfl
  | ok backend =>
    exact congrArg (fun next => (authorise settings timeout boundary >>= next).perform scene)
      (funext fun client => serves client (serverOf backend))

theorem deletedExactly (announced : Announced settings timeout boundary serverOf scene client server told)
    (quiet : server.Quiet) :
    let last := ((runAlong courseOf ending settings timeout boundary serverOf).perform scene).2
    (client.deletions (line last.world) = client.deletions (line scene.world) + 1 ↔
      Closes courseOf ending client server settings told) ∧
    client.deletions (line last.world) ≤ client.deletions (line scene.world) + 1 ∧
    ∀ instead, (runAlong courseOf ending settings timeout boundary fun backend =>
        (serverOf backend).heeding instead).perform scene =
      (runAlong courseOf ending settings timeout boundary serverOf).perform scene := by
  intro last
  have ends := openedDeletions client courseOf ending quiet announced.published told
  rw [← announcedRun announced,announcedDeletions announced] at ends
  refine ⟨?_,?_,heedingRun⟩
  · rcases ends with ⟨closes,one⟩ | ⟨unclosed,none⟩
    · exact ⟨fun _ => closes,fun _ => one⟩
    · constructor
      · intro one
        have clash := none.symm.trans one
        omega
      · exact fun closes => absurd closes unclosed
  · rcases ends with ⟨_,one⟩ | ⟨_,none⟩
    · exact one.le
    · exact none.le.trans (Nat.le_succ _)

section Letter

def letter : Settings :=
  ⟨20,none,some "1:aaaaaaaaaaaaaaaaaaaaaaaaaaaaaaaaaaa","https://api","0.0.0.0:8443","/bot",
    some "https://bot",none,"http"⟩

def letterReplies : List Reply := [
  .answered 200 (ascii "\x7b\"ok\":true,\"result\":\x7b\"id\":1,\"is_bot\":true,\"first_name\":\"b\"\x7d\x7d"),
  .answered 200 (ascii "\x7b\"ok\":true,\"result\":true\x7d")]

def letterScene : Scene (Station Unit) :=
  ⟨.empty,⟨[],letterReplies,.failed (.raised .network "down"),[]⟩,.empty 0,()⟩

def answering (start : Except Failure Value) : Server (Station Unit) :=
  ⟨fun _ => MonadExcept.ofExcept start,fun _ => return .null,fun _ _ => return .null⟩

theorem answeringQuiet (start : Except Failure Value) : (answering start).Quiet :=
  ⟨fun _ _ _ => rfl,fun _ _ => by rw [answering,perform_ofExcept],fun _ _ => rfl⟩

theorem letterAnnounced (server : Server (Station Unit)) : ∃ client told,
    Announced letter (.int 30) "B" (fun _ => server) letterScene client server told := by
  have called : ((announcing letter (.int 30) "B").perform letterScene).1.isOk = true := by
    decide +kernel
  rcases ends : (announcing letter (.int 30) "B").perform letterScene with ⟨failure | client,told⟩
  · rw [ends] at called
    cases called
  · exact ⟨client,told,by decide +kernel,rfl,ends⟩

theorem letterDeleted : let server := answering (.ok .null)
    ∃ client told,
      Announced letter (.int 30) "B" (fun _ => server) letterScene client server told ∧ server.Quiet ∧
      client.deletions (line ((runAlong settling (.ok ()) letter (.int 30) "B" fun _ => server).perform
        letterScene).2.world) = client.deletions (line letterScene.world) + 1 := by
  intro server
  obtain ⟨client,told,announced⟩ := letterAnnounced server
  have quiet : server.Quiet := answeringQuiet _
  have closes : Closes settling (.ok ()) client server letter told := ⟨_,_,_,_,rfl,rfl⟩
  exact ⟨client,told,announced,quiet,(deletedExactly announced quiet).1.mpr closes⟩

theorem startlessKeepsWebhook : let server := answering (.error (.raised .os "in use"))
    ∃ client told,
      Announced letter (.int 30) "B" (fun _ => server) letterScene client server told ∧ server.Quiet ∧
      ¬client.deletions (line ((runAlong settling (.ok ()) letter (.int 30) "B" fun _ => server).perform
        letterScene).2.world) = client.deletions (line letterScene.world) + 1 := by
  intro server
  obtain ⟨client,told,announced⟩ := letterAnnounced server
  have quiet : server.Quiet := answeringQuiet _
  refine ⟨client,told,announced,quiet,fun one => ?_⟩
  rw [announcedRun announced,← announcedDeletions announced] at one
  rcases openedDeletions client settling (.ok ()) quiet announced.published told with ⟨closes,_⟩ | ⟨_,none⟩
  · obtain ⟨_,_,_,_,opens,_⟩ := closes
    cases opens
  · have clash := none.symm.trans one
    omega

end Letter

end Echo
end BotGateway
