import BotGateway.Proofs.Updates.Delivery
import BotGateway.Proofs.Updates.History

/-! Sessions of a poller. It takes its steps one at a time; between two of them its queue is
stopped, the marker is placed, consumers get what they get, and elsewhere anything at all happens.
Nobody else puts updates in the queue. -/
namespace BotGateway.LongPolling
variable {site : Type}

open UpdateQueue (Operation History)

def refusal : Failure := .queueStopped false

inductive Event (site : Type) where
  | poll
  | queue (operation : Operation Value) (others : ∀ value, operation ≠ .put value)
  | elsewhere (journal : Journal) (outside : Outside) (site : site)

def Move.put? : Move → Option Value
  | .accepts update | .waits update | .refuses update => some update
  | _ => none

def Move.offer? : Move → Option (Value × Except Failure Unit)
  | .accepts update => some (update,.ok ())
  | .waits update => some (update,.error .queueFull)
  | .refuses update => some (update,.error refusal)
  | _ => none

structure Session (site : Type) where
  poller : Poller
  closed : Bool
  scene : Scene (Station site)
  moves : List Move
  operations : List (Operation Value)
  told : List (Except Failure (Option Value))

namespace Session

def queue (session : Session site) : UpdateQueue Value := session.scene.world.queue

def history (session : Session site) : History Value :=
  ⟨⟨session.scene.journal,session.queue⟩,session.moves.filterMap Move.offer?,session.told⟩

def yielded (session : Session site) : List Value := session.history.yielded

def opened (offset bound : Int) (scene : Scene (Station site)) : Session site :=
  ⟨⟨offset,.checking⟩,false,⟨scene.journal,{scene.world with queue := .empty bound}⟩,[],[],[]⟩

def close (session : Session site) : Session site :=
  {session with
    closed := true
    scene := ((finish session.poller).perform session.scene).2
    operations := session.operations ++ [.stop]}

def moved (session : Session site) (move : Move) (poller : Poller) (scene : Scene (Station site)) :
    Session site :=
  {session with
    poller := poller
    scene := scene
    moves := session.moves ++ [move]
    operations := session.operations ++ move.put?.toList.map .put}

def poll (polling : LongPolling) (session : Session site) : Session site :=
  if session.closed then session
  else match session.poller.phase with
    | .over => session.close
    | _ =>
      match (polling.step session.poller).perform session.scene with
      | (.ok poller,scene) =>
        session.moved (polling.moveOf ⟨session.poller,session.scene⟩) poller scene
      | (.error _,_) => session

def operate (session : Session site) (operation : Operation Value) : Session site :=
  let after := session.history.step refusal operation
  {session with
    scene := ⟨after.scene.journal,{session.scene.world with queue := after.queue}⟩
    operations := session.operations ++ [operation]
    told := after.told}

def step (polling : LongPolling) (session : Session site) : Event site → Session site
  | .poll => session.poll polling
  | .queue operation _ => session.operate operation
  | .elsewhere journal outside site =>
    {session with scene := ⟨journal,⟨outside,session.queue,site⟩⟩}

def run (polling : LongPolling) : Session site → List (Event site) → Session site :=
  List.foldl (step polling)

def Stops (events : List (Event site)) : Prop := ∃ others, .queue .stop others ∈ events

inductive Last (polling : LongPolling) (events : List (Event site)) : Move → Prop where
  | stopped (stops : Stops events) : Last polling events .checks
  | refused {update : Value} (stops : Stops events) : Last polling events (.refuses update)
  | failed {offset : Int} {failure : Failure} (final : polling.afterward failure = .over) :
      Last polling events (.asks offset (.error failure))
  | unpaused (final : pause polling.interval = .over) : Last polling events .turns

/-- `course`: the moves lead from the first offset to where the poller is. `stopped`: as long as the
poller is not closed, only others can have stopped the queue. -/
structure Steady (polling : LongPolling) (first bound : Int) (events : List (Event site))
    (session : Session site) : Prop where
  course : ∃ scene,
    Course polling ⟨⟨first,.checking⟩,scene⟩ session.moves ⟨session.poller,session.scene⟩
  awake : .rests ∉ session.moves
  kept : History.Kept bound session.operations session.history
  stopped : .stop ∈ session.operations → session.closed = true ∨ Stops events
  last : session.poller.phase = .over →
    ∃ before move, session.moves = before ++ [move] ∧ Last polling events move
  shut : session.closed = true → session.poller.phase = .over ∧ .stop ∈ session.operations

section Steps
variable {polling : LongPolling} {first bound : Int} {session : Session site}
  {events : List (Event site)}

theorem steadyOpened (polling : LongPolling) (offset bound : Int) (scene : Scene (Station site)) :
    Steady polling offset bound [] (opened offset bound scene) :=
  ⟨⟨_,.here _⟩,nofun,History.keptFresh bound scene.journal,nofun,nofun,nofun⟩

theorem keptJournal {operations : List (Operation Value)} {history : History Value}
    (kept : History.Kept bound operations history) (journal : Journal) :
    History.Kept bound operations ⟨⟨journal,history.queue⟩,history.offered,history.told⟩ :=
  ⟨kept.sound,kept.bounded,kept.fifo,kept.stopped,kept.holding,kept.drained,kept.ended⟩

theorem historyMoved (session : Session site) (move : Move) (poller : Poller)
    (scene : Scene (Station site)) : (session.moved move poller scene).history =
      ⟨⟨scene.journal,scene.world.queue⟩,session.history.offered ++ move.offer?.toList,
        session.told⟩ := by
  cases offer : move.offer? <;> simp [history,moved,queue,offer]

theorem keptQuiet {move : Move} {poller : Poller} {scene : Scene (Station site)}
    (kept : History.Kept bound session.operations session.history) (unput : move.put? = none)
    (silent : move.offer? = none) (same : scene.world.queue = session.queue) :
    History.Kept bound (session.moved move poller scene).operations
      (session.moved move poller scene).history := by
  have operations : (session.moved move poller scene).operations = session.operations := by
    simp [moved,unput]
  rw [operations,historyMoved,silent,same,Option.toList_none,List.append_nil]
  exact keptJournal kept scene.journal

theorem keptOffered {move : Move} {poller : Poller} {scene : Scene (Station site)} {update : Value}
    (kept : History.Kept bound session.operations session.history) (put : move.put? = some update)
    (offer : move.offer? = some (update,(session.queue.offer update).1.told refusal))
    (left : scene.world.queue = (session.queue.offer update).2) :
    History.Kept bound (session.moved move poller scene).operations
      (session.moved move poller scene).history := by
  have operations : (session.moved move poller scene).operations =
      session.operations ++ [.put update] := by
    simp [moved,put]
  have next := keptJournal (History.keptPut kept refusal update) scene.journal
  rw [History.step,UpdateQueue.putOffers] at next
  rw [operations,historyMoved,offer,left]
  exact next

theorem keptStep {offset : Int} {phase : Phase} {move : Move} {poller : Poller}
    {scene : Scene (Station site)} (kept : History.Kept bound session.operations session.history)
    (turn : Turn polling session.scene offset phase move poller scene.world) :
    History.Kept bound (session.moved move poller scene).operations
      (session.moved move poller scene).history := by
  generalize left : scene.world = world at turn
  cases turn with
  | stops | goes | answered | failed | turns | skips | picks | rests =>
    exact keptQuiet kept rfl rfl (by rw [left]; rfl)
  | @accepts update batch running room =>
    have offered : session.queue.offer update =
        (.accepted,{session.queue with slots := session.queue.slots ++ [.update update]}) := by
      simp [UpdateQueue.offer,queue,running,room]
    exact keptOffered kept rfl (by rw [offered]; rfl) (by rw [offered,left]; rfl)
  | @waits update batch running full =>
    have offered : session.queue.offer update = (.full,session.queue) := by
      simp [UpdateQueue.offer,queue,running,full]
    exact keptOffered kept rfl (by rw [offered]; rfl) (by rw [offered,left]; rfl)
  | @refuses update batch stopped =>
    have offered : session.queue.offer update = (.refused,session.queue) := by
      simp [UpdateQueue.offer,queue,stopped]
    exact keptOffered kept rfl (by rw [offered]; rfl) (by rw [offered,left]; rfl)

theorem polled (polling : LongPolling) (going : session.poller.phase ≠ .over)
    (closed : session.closed = false) : ∃ poller scene,
      (polling.step session.poller).perform session.scene = (.ok poller,scene) ∧
      session.poll polling =
        session.moved (polling.moveOf ⟨session.poller,session.scene⟩) poller scene ∧
      Turn polling session.scene session.poller.offset session.poller.phase
        (polling.moveOf ⟨session.poller,session.scene⟩) poller scene.world := by
  obtain ⟨poller,scene,steps,turn⟩ :=
    stepTurns polling session.poller.offset session.scene session.poller.phase
  have steps : (polling.step session.poller).perform session.scene = (.ok poller,scene) := steps
  refine ⟨poller,scene,steps,?_,turn⟩
  rw [poll,closed]
  cases phase : session.poller.phase with
  | «over» => exact absurd phase going
  | _ => simp [steps]

theorem closedStays (polling : LongPolling) (closed : session.closed = true) (n : Nat) :
    session.run polling (List.replicate n .poll) = session := by
  induction n with
  | zero => rfl
  | succ n ih =>
    have same : session.step polling .poll = session := if_pos closed
    rw [run,List.replicate_succ,List.foldl_cons,same]
    exact ih

theorem runPolls (polling : LongPolling) (closed : session.closed = false) (n : Nat) :
    (LongPolling.run polling (pure ()) n session.poller).perform session.scene =
      (.ok (session.run polling (List.replicate n .poll)).poller,
        (session.run polling (List.replicate n .poll)).scene) := by
  induction n generalizing session with
  | zero => rfl
  | succ n ih =>
    rw [run,List.replicate_succ,List.foldl_cons,LongPolling.run]
    by_cases going : session.poller.phase = .over
    · have same : session.step polling .poll = session.close := by
        simp [step,poll,closed,going]
      have still : session.close.run polling (List.replicate n .poll) = session.close :=
        closedStays polling rfl n
      rw [going,same]
      rw [run] at still
      rw [still]
      rfl
    · obtain ⟨poller,scene,steps,same,_⟩ := polled polling going closed
      have same : session.step polling .poll = _ := same
      rw [same]
      have next :=
        @ih (session.moved (polling.moveOf ⟨session.poller,session.scene⟩) poller scene) closed
      rw [run] at next
      rw [← next]
      split
      · rename_i idle
        exact absurd idle going
      · rw [Action.perform_bind,steps]
        rfl

theorem awakeTurn {offset : Int} {phase : Phase} {move : Move} {poller : Poller}
    {scene : Scene (Station site)} {station : Station site}
    (turn : Turn polling scene offset phase move poller station) (going : phase ≠ .over) :
    move ≠ .rests := by
  cases turn with
  | rests => exact absurd rfl going
  | _ => nofun

theorem lastTurn {offset : Int} {phase : Phase} {move : Move} {poller : Poller}
    {scene : Scene (Station site)} {station : Station site}
    (turn : Turn polling scene offset phase move poller station) (going : phase ≠ .over)
    (stops : scene.world.queue.stopped = true → Stops events) (ends : poller.phase = .over) :
    Last polling events move := by
  cases turn with
  | stops stopped => exact .stopped (stops stopped)
  | failed answer => exact .failed ends
  | turns => exact .unpaused ends
  | refuses stopped => exact .refused (stops stopped)
  | rests => exact absurd rfl going
  | goes | answered | skips | picks | accepts | waits => cases ends

theorem Stops.more (stops : Stops events) (event : Event site) : Stops (events ++ [event]) := by
  obtain ⟨others,member⟩ := stops
  exact ⟨others,List.mem_append_left _ member⟩

theorem Last.more {move : Move} (last : Last polling events move) (event : Event site) :
    Last polling (events ++ [event]) move := by
  cases last with
  | stopped stops => exact .stopped (stops.more event)
  | refused stops => exact .refused (stops.more event)
  | failed final => exact .failed final
  | unpaused final => exact .unpaused final

theorem steadyChanged {after : Session site} (steady : Steady polling first bound events session)
    (event : Event site) (moves : after.moves = session.moves)
    (poller : after.poller = session.poller)
    (kept : History.Kept bound after.operations after.history)
    (stopped : .stop ∈ after.operations →
      .stop ∈ session.operations ∨ after.closed = true ∨ Stops (events ++ [event]))
    (closed : session.closed = true → after.closed = true)
    (shut : after.closed = true → after.poller.phase = .over ∧ .stop ∈ after.operations) :
    Steady polling first bound (events ++ [event]) after := by
  obtain ⟨start,course⟩ := steady.course
  have course := course.elsewhere after.scene
  have awake := steady.awake
  have last := steady.last
  rw [← moves] at awake last
  rw [← moves,← poller] at course
  rw [← poller] at last
  refine ⟨course,awake,kept,fun asked => ?_,fun ended => ?_,shut⟩
  · obtain earlier | now := stopped asked
    · exact (steady.stopped earlier).imp closed (·.more event)
    · exact now
  · obtain ⟨before,move,same,last⟩ := last ended
    exact ⟨before,move,same,last.more event⟩

theorem steadyClose (steady : Steady polling first bound events session)
    (ended : session.poller.phase = .over) :
    Steady polling first bound (events ++ [.poll]) session.close :=
  steadyChanged steady .poll rfl rfl
    (keptJournal (History.keptStop steady.kept refusal) session.close.scene.journal)
    (fun _ => .inr (.inl rfl)) (fun _ => rfl)
    fun _ => ⟨ended,List.mem_append_right _ (List.mem_singleton.mpr rfl)⟩

theorem steadyPoll (steady : Steady polling first bound events session) :
    Steady polling first bound (events ++ [.poll]) (session.poll polling) := by
  cases closed : session.closed with
  | true =>
    rw [poll,if_pos closed]
    exact steadyChanged steady .poll rfl rfl steady.kept .inl id steady.shut
  | false =>
    by_cases going : session.poller.phase = .over
    · rw [poll,closed,going]
      exact steadyClose steady going
    · obtain ⟨poller,scene,steps,same,turn⟩ := polled polling going closed
      obtain ⟨start,course⟩ := steady.course
      have others : .stop ∈ session.operations → Stops events := fun asked =>
        (steady.stopped asked).resolve_left (by rw [closed]; nofun)
      rw [same]
      refine ⟨⟨start,course.further steps⟩,?_,keptStep steady.kept turn,fun asked => ?_,
        fun ends => ?_,fun shut => ?_⟩
      · intro rests
        obtain earlier | now := List.mem_append.mp rests
        · exact steady.awake earlier
        · exact awakeTurn turn going (List.mem_singleton.mp now).symm
      · obtain earlier | now := List.mem_append.mp asked
        · exact .inr ((others earlier).more .poll)
        · obtain ⟨_,_,put⟩ := List.mem_map.mp now
          cases put
      · have stops := fun stopped => others (steady.kept.stopped.mp stopped)
        have last := lastTurn turn going stops ends
        exact ⟨_,_,rfl,last.more .poll⟩
      · cases closed.symm.trans shut

theorem offeredSame (history : History Value) {operation : Operation Value}
    (others : ∀ value, operation ≠ .put value) :
    (history.step refusal operation).offered = history.offered := by
  cases operation with
  | put value => exact absurd rfl (others value)
  | stop | settle | get => rfl
  | take =>
    rw [History.step]
    rcases history.queue.take with ⟨_ | _ | _,_⟩ <;> rfl
  | putBack =>
    rw [History.step]
    split <;> rfl

theorem queueHistory (polling : LongPolling) (session : Session site) {operation : Operation Value}
    (others : ∀ value, operation ≠ .put value) :
    (session.step polling (.queue operation others)).history =
      session.history.step refusal operation := by
  have whole : (session.step polling (.queue operation others)).history =
      ⟨(session.history.step refusal operation).scene,session.history.offered,
        (session.history.step refusal operation).told⟩ := rfl
  rw [whole,← offeredSame session.history others]

theorem steadyOperate (steady : Steady polling first bound events session)
    {operation : Operation Value} (others : ∀ value, operation ≠ .put value) :
    Steady polling first bound (events ++ [.queue operation others]) (session.operate operation) := by
  have kept := History.keptStep steady.kept refusal operation
  rw [← queueHistory polling session others] at kept
  refine steadyChanged steady _ rfl rfl kept (fun asked => ?_) id fun closed => ?_
  · obtain earlier | now := List.mem_append.mp asked
    · exact .inl earlier
    · obtain rfl := List.mem_singleton.mp now
      exact .inr (.inr ⟨others,List.mem_append_right _ (List.mem_singleton.mpr rfl)⟩)
  · obtain ⟨ended,asked⟩ := steady.shut closed
    exact ⟨ended,List.mem_append_left _ asked⟩

theorem steadyStep (steady : Steady polling first bound events session) (event : Event site) :
    Steady polling first bound (events ++ [event]) (session.step polling event) := by
  cases event with
  | poll => exact steadyPoll steady
  | queue operation others => exact steadyOperate steady others
  | elsewhere journal outside site =>
    exact steadyChanged steady _ rfl rfl (keptJournal steady.kept journal) .inl id steady.shut

theorem steadyRun (polling : LongPolling) (offset bound : Int) (scene : Scene (Station site))
    (events : List (Event site)) :
    Steady polling offset bound events ((opened offset bound scene).run polling events) := by
  induction events using List.reverseRecOn with
  | nil => exact steadyOpened polling offset bound scene
  | append_singleton before event ih =>
    rw [run,List.foldl_append]
    exact steadyStep ih event

end Steps
end Session
end BotGateway.LongPolling
