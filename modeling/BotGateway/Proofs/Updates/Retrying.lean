import BotGateway.Proofs.Updates.Resumption
import BotGateway.Proofs.Updates.Session

/-! What failed calls and the end of a poller leave to those who get its updates. A failed call
changes neither the offset nor the queue; one that is made again asks for the same updates; and
however the poller ends, what it put in the queue is got in order, and then the end. -/
namespace BotGateway.LongPolling
variable {site : Type}

open UpdateQueue (History)

def Again (polling : LongPolling) (failure : Failure) : Prop :=
  failure.kind.isSdk = true ∧ polling.retry.isTruthy = true ∧ canWait polling.retry = true

section Failing
variable {polling : LongPolling} {failure : Failure}

theorem afterwardAgain (again : Again polling failure) : polling.afterward failure = .checking := by
  obtain ⟨sdk,set,short⟩ := again
  simp [afterward,pause,sdk,set,short]

theorem afterwardFinal (final : ¬ Again polling failure) : polling.afterward failure = .over := by
  rw [afterward]
  split
  · rename_i tried
    obtain ⟨sdk,set⟩ := Bool.and_eq_true_iff.mp tried
    exact if_neg fun short => final ⟨sdk,set,short⟩
  · rfl

end Failing

namespace Session

inductive Since (asked : Int) (events : List (Event site)) (poller : Poller) :
    List Move → Prop where
  | waited (here : poller = ⟨asked,.checking⟩) : Since asked events poller []
  | checked (here : poller = ⟨asked,.asking⟩) : Since asked events poller [.checks]
  | stopped (here : poller = ⟨asked,.over⟩) (stops : Stops events) :
      Since asked events poller [.checks]
  | asked (outcome : Except Failure (List Value)) (rest : List Move) :
      Since asked events poller (.checks :: .asks asked outcome :: rest)

def emptying (left : Nat) : List (Event site) :=
  List.replicate left (.queue .get nofun) ++
    [.queue .settle nofun,.queue .putBack nofun,.queue .get nofun]

/-- What holds at every moment of a session. `resumed`: when a failed call is to be made again, the
poller and the queue are as before it. `asks`: a call asks from above the last update accepted, or
from the first offset. `closes`: a poller that is over stops the queue at its next turn. `emptied`:
a consumer that took the marker and still holds it hears of the end as well. -/
structure Resilient (polling : LongPolling) (first : Int) (events : List (Event site))
    (session : Session site) : Prop where
  unmoved : ∀ failure, session.poller.phase = .asking →
    (polling.asked session.poller.offset session.scene).1 = .error failure →
      (session.poll polling).poller.offset = session.poller.offset ∧
      (session.poll polling).queue = session.queue ∧
      (session.poll polling).told = session.told ∧
      (session.poll polling).moves =
        session.moves ++ [.asks session.poller.offset (.error failure)]
  resumed : ∀ failure, session.poller.phase = .asking →
    (polling.asked session.poller.offset session.scene).1 = .error failure → Again polling failure →
      session.queue.stopped = false →
        ((session.poll polling).poll polling).poller = session.poller ∧
        ((session.poll polling).poll polling).queue = session.queue ∧
        accepted ((session.poll polling).poll polling).moves = accepted session.moves
  again : ∀ before asked failure after,
    session.moves = before ++ .asks asked (.error failure) :: after → Again polling failure →
      Since asked events session.poller after
  final : ∀ before asked failure after,
    session.moves = before ++ .asks asked (.error failure) :: after → ¬ Again polling failure →
      after = [] ∧ session.poller = ⟨asked,.over⟩
  asks : ∀ before asked outcome after, session.moves = before ++ .asks asked outcome :: after →
    asked = due first before
  rising : (accepted session.moves).Pairwise fun earlier later =>
    identifier earlier < identifier later
  part : ∀ before asked batch after, session.moves = before ++ .asks asked (.ok batch) :: after →
    accepted (untilTurn after) <+: fresh asked batch
  whole : ∀ before asked batch after, session.moves = before ++ .asks asked (.ok batch) :: after →
    .turns ∈ after → accepted (untilTurn after) = fresh asked batch
  ends : session.poller.phase = .over →
    ∃ before move, session.moves = before ++ [move] ∧ Last polling events move
  closes : session.poller.phase = .over → (session.poll polling).closed = true ∧
    (session.poll polling).queue.updates = session.queue.updates
  closed : session.closed = true → session.queue.stopped = true ∧ session.poll polling = session
  order : accepted session.moves = session.yielded ++ session.queue.updates
  ended : .ok none ∈ session.told →
    session.yielded = accepted session.moves ∧ session.queue.stopped = true
  emptied : session.queue.stopped = true →
    (session.run polling (emptying session.queue.updates.length)).told =
      session.told ++ session.queue.updates.map (fun update => .ok (some update)) ++
        List.replicate (session.queue.held + 1) (.ok none)

section Polls
variable {polling : LongPolling} {first bound : Int} {session : Session site}
  {events : List (Event site)} {failure : Failure}

theorem openGoing (steady : Steady polling first bound events session)
    (going : session.poller.phase ≠ .over) : session.closed = false :=
  Bool.eq_false_iff.mpr fun closed => going (steady.shut closed).1

theorem pollFails (steady : Steady polling first bound events session)
    (asking : session.poller.phase = .asking)
    (answer : (polling.asked session.poller.offset session.scene).1 = .error failure) :
    ∃ scene, session.poll polling = session.moved (.asks session.poller.offset (.error failure))
        ⟨session.poller.offset,polling.afterward failure⟩ scene ∧
      scene.world.queue = session.queue := by
  have going : session.poller.phase ≠ .over := by rw [asking]; nofun
  obtain ⟨poller,scene,_,same,turn⟩ := polled polling going (openGoing steady going)
  have move : polling.moveOf ⟨session.poller,session.scene⟩ =
      .asks session.poller.offset (.error failure) := by
    simp [moveOf,asking,answer]
  rw [move] at same turn
  rw [asking] at turn
  generalize left : scene.world = world at turn
  cases turn with
  | failed => exact ⟨scene,same,by rw [left]; rfl⟩

theorem pollChecks (polling : LongPolling) {offset : Int}
    (checking : session.poller = ⟨offset,.checking⟩) (closed : session.closed = false) (running : session.queue.stopped = false) :
    ∃ scene, session.poll polling = session.moved .checks ⟨offset,.asking⟩ scene ∧
      scene.world.queue = session.queue := by
  obtain ⟨poller,scene,_,same,turn⟩ := polled polling (by rw [checking]; nofun) closed
  have move : polling.moveOf ⟨session.poller,session.scene⟩ = .checks := by simp [moveOf,checking]
  rw [move] at same turn
  rw [checking] at turn
  generalize left : scene.world = world at turn
  cases turn with
  | stops stopped => cases running.symm.trans stopped
  | goes => exact ⟨scene,same,by rw [left]; rfl⟩

theorem pollResumes (steady : Steady polling first bound events session)
    (asking : session.poller.phase = .asking)
    (answer : (polling.asked session.poller.offset session.scene).1 = .error failure)
    (again : Again polling failure) (running : session.queue.stopped = false) :
    ((session.poll polling).poll polling).poller = session.poller ∧
    ((session.poll polling).poll polling).queue = session.queue ∧
    accepted ((session.poll polling).poll polling).moves = accepted session.moves := by
  have unclosed := openGoing steady (by rw [asking]; nofun)
  obtain ⟨scene,failed,same⟩ := pollFails steady asking answer
  rw [afterwardAgain again] at failed
  have still : (session.poll polling).queue = session.queue := by
    rw [failed]
    exact same
  have checking : (session.poll polling).poller = ⟨session.poller.offset,.checking⟩ := by
    rw [failed]
    rfl
  obtain ⟨later,checked,kept⟩ := pollChecks polling checking (by rw [failed]; exact unclosed)
    (by rw [still]; exact running)
  rw [checked]
  refine ⟨?_,?_,?_⟩
  · exact congrArg (Poller.mk session.poller.offset) asking.symm
  · exact kept.trans still
  · rw [failed]
    simp [moved,accepted,Move.accepted?]

theorem courseOver {offset : Int} {scene : Scene (Station site)} {moves : List Move}
    {last : Moment site} (course : Course polling ⟨⟨offset,.over⟩,scene⟩ moves last)
    (awake : .rests ∉ moves) : moves = [] ∧ last.poller = ⟨offset,.over⟩ := by
  cases course with
  | here => exact ⟨rfl,rfl⟩
  | on => exact absurd List.mem_cons_self awake

theorem courseAsks {offset : Int} {scene : Scene (Station site)} {moves : List Move}
    {last : Moment site} (course : Course polling ⟨⟨offset,.asking⟩,scene⟩ moves last) :
    (moves = [] ∧ last.poller = ⟨offset,.asking⟩) ∨
      ∃ outcome rest, moves = .asks offset outcome :: rest := by
  cases course with
  | here => exact .inl ⟨rfl,rfl⟩
  | on => exact .inr ⟨_,_,rfl⟩

theorem courseChecks {offset : Int} {scene : Scene (Station site)} {moves : List Move}
    {last : Moment site} (course : Course polling ⟨⟨offset,.checking⟩,scene⟩ moves last) :
    (moves = [] ∧ last.poller = ⟨offset,.checking⟩) ∨
      ∃ rest phase scene, moves = .checks :: rest ∧ (phase = .asking ∨ phase = .over) ∧
        Course polling ⟨⟨offset,phase⟩,scene⟩ rest last := by
  cases course with
  | here => exact .inl ⟨rfl,rfl⟩
  | on steps between rest =>
    have turn := stepped polling steps
    rw [show polling.moveOf ⟨⟨offset,.checking⟩,scene⟩ = .checks from rfl] at turn
    rename_i after
    generalize after.world = world at turn
    cases turn with
    | stops => exact .inr ⟨_,_,between,rfl,.inr rfl,rest⟩
    | goes => exact .inr ⟨_,_,between,rfl,.inl rfl,rest⟩

theorem sinceFailed (steady : Steady polling first bound events session) {before after : List Move}
    {asked : Int} (moves : session.moves = before ++ .asks asked (.error failure) :: after)
    (again : Again polling failure) : Since asked events session.poller after := by
  obtain ⟨_,course⟩ := steady.course
  have awake := steady.awake
  rw [moves] at course awake
  obtain ⟨_,⟨scene,late⟩⟩ := course.atCall
  rw [onward,afterwardAgain again] at late
  obtain ⟨rfl,here⟩ | ⟨rest,phase,_,rfl,rfl | rfl,later⟩ := courseChecks late
  · exact .waited here
  · obtain ⟨rfl,here⟩ | ⟨outcome,rest,rfl⟩ := courseAsks later
    · exact .checked here
    · exact .asked outcome rest
  · have still : .rests ∉ rest := fun member => by simp [member] at awake
    obtain ⟨rfl,here⟩ := courseOver later still
    obtain ⟨earlier,move,ending,last⟩ := steady.last (congrArg Poller.phase here)
    -- The check was the last move, and only a stop makes a check the last.
    rw [moves,List.append_cons] at ending
    obtain ⟨_,same⟩ := List.append_inj' ending rfl
    obtain rfl := (List.cons.inj same).1
    cases last with
    | stopped stops => exact .stopped here stops

theorem finalFailed (steady : Steady polling first bound events session) {before after : List Move}
    {asked : Int} (moves : session.moves = before ++ .asks asked (.error failure) :: after)
    (final : ¬ Again polling failure) : after = [] ∧ session.poller = ⟨asked,.over⟩ := by
  obtain ⟨_,course⟩ := steady.course
  have awake := steady.awake
  rw [moves] at course awake
  obtain ⟨_,⟨scene,late⟩⟩ := course.atCall
  rw [onward,afterwardFinal final] at late
  refine courseOver late fun member => awake ?_
  exact List.mem_append_right _ (List.mem_cons_of_mem _ member)

theorem acceptedOffers (moves : List Move) :
    (moves.filterMap Move.offer?).filterMap
      (fun (value,result) => result.toOption.map fun _ => value) = accepted moves := by
  rw [List.filterMap_filterMap,accepted]
  congr 1
  funext move
  cases move <;> rfl

theorem historyOrder (steady : Steady polling first bound events session) :
    accepted session.moves = session.yielded ++ session.queue.updates :=
  (acceptedOffers session.moves).symm.trans steady.kept.fifo

theorem historyEnded (steady : Steady polling first bound events session)
    (told : .ok none ∈ session.told) :
    session.yielded = accepted session.moves ∧ session.queue.stopped = true := by
  obtain ⟨drained,stopped,_⟩ := steady.kept.drained told
  have order := historyOrder steady
  rw [show session.queue.updates = [] from drained,List.append_nil] at order
  exact ⟨order.symm,stopped⟩

theorem emptyingHistory (polling : LongPolling) (left : Nat) (session : Session site) :
    (session.run polling (emptying left)).history =
      session.history.run refusal (History.emptying left) := by
  induction left generalizing session with
  | zero =>
    simp only [run,emptying,History.emptying,History.run,List.replicate_zero,
      List.nil_append,List.foldl_cons,List.foldl_nil,queueHistory]
  | succ left ih =>
    have next := ih (session.step polling (.queue .get nofun))
    rw [queueHistory] at next
    exact next

theorem resilientRun (polling : LongPolling) (offset bound : Int) (scene : Scene (Station site))
    (events : List (Event site)) :
    Resilient polling offset events ((opened offset bound scene).run polling events) := by
  have steady := steadyRun polling offset bound scene events
  generalize (opened offset bound scene).run polling events = session at steady
  obtain ⟨start,course⟩ := steady.course
  have kept := keptCourse (keptStart offset) course
  rw [List.nil_append] at kept
  constructor
  case unmoved =>
    intro failure asking answer
    obtain ⟨scene,failed,same⟩ := pollFails steady asking answer
    rw [failed]
    exact ⟨rfl,same,rfl,rfl⟩
  case resumed => exact fun failure => pollResumes steady
  case again => exact fun before asked failure after => sinceFailed steady
  case final => exact fun before asked failure after => finalFailed steady
  case asks =>
    intro before asked outcome after moves
    exact (askedDue (moves ▸ course) rfl).1
  case rising => exact kept.rising
  case part =>
    intro before asked batch after moves
    exact ((askedDue (moves ▸ course) rfl).2 batch rfl).part
  case whole =>
    intro before asked batch after moves
    exact ((askedDue (moves ▸ course) rfl).2 batch rfl).whole
  case ends => exact steady.last
  case closes =>
    intro ended
    rw [poll]
    split
    · rename_i closed
      exact ⟨closed,rfl⟩
    · rw [ended]
      refine ⟨rfl,?_⟩
      show session.queue.stop.updates = session.queue.updates
      rw [UpdateQueue.updates,(UpdateQueue.stopKeeps session.queue).1]
      rfl
  case closed =>
    intro closed
    exact ⟨steady.kept.stopped.mpr (steady.shut closed).2,if_pos closed⟩
  case order => exact historyOrder steady
  case ended => exact historyEnded steady
  case emptied =>
    intro stopped
    have told := History.emptiedTold steady.kept refusal stopped
    rw [show session.history.queue = session.queue from rfl,← emptyingHistory polling] at told
    exact told

end Polls

def patientPolling : LongPolling :=
  {letterPolling with retry := .float (Binary64.ofInt 10000000000)}

def patientScene : Scene (Station Unit) :=
  ⟨.empty,⟨⟨[],⟨[.answered 502 [],letterReply],.failed .webhookClosed,[]⟩⟩,.empty 1,()⟩⟩

def patientEvents : List (Event Unit) := List.replicate 4 .poll

def patient : Session Unit := (opened 5 1 patientScene).run patientPolling patientEvents

def failed? : Move → Option (Int × Failure)
  | .asks offset (.error failure) => some (offset,failure)
  | _ => none

/-- Three hundred years are a positive time, and too long a time to wait. -/
theorem longRetryEnds : ¬ ∀ (polling : LongPolling) (first bound : Int)
    (scene : Scene (Station Unit)) (events : List (Event Unit)),
      isNegative polling.retry = .ok false → polling.retry.isTruthy = true →
      ∀ before asked failure after,
        ((opened first bound scene).run polling events).moves =
          before ++ .asks asked (.error failure) :: after → failure.kind.isSdk = true →
            Since asked events ((opened first bound scene).run polling events).poller after := by
  intro claim
  have claim : ∀ before asked failure after,
      patient.moves = before ++ .asks asked (.error failure) :: after →
        failure.kind.isSdk = true → Since asked patientEvents patient.poller after :=
    claim patientPolling 5 1 patientScene patientEvents rfl (by decide +kernel)
  have failed : ((patient.moves.getLast?.bind failed?).map fun (offset,failure) =>
      (offset,failure.kind.isSdk)) = some (5,true) := by decide +kernel
  have ended : patient.poller.phase.isOver = true := by decide +kernel
  cases final : patient.moves.getLast? with
  | none =>
    rw [final] at failed
    cases failed
  | some last =>
    obtain ⟨before,moves⟩ := List.getLast?_eq_some_iff.mp final
    rw [final] at failed
    cases last with
    | asks asked outcome =>
      cases outcome with
      | ok batch => cases failed
      | error failure =>
        have sdk : (asked,failure.kind.isSdk) = (5,true) := Option.some.inj failed
        cases claim before asked failure [] moves (congrArg Prod.snd sdk) with
        | waited here =>
          rw [here] at ended
          cases ended
    | _ => cases failed

end Session
end BotGateway.LongPolling
