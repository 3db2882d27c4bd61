import BotGateway.Proofs.Client.Call
import BotGateway.Proofs.Request.Outline
import BotGateway.Proofs.Updates.Delivery

/-! What a poller does to the world along a trail: the posts that leave it and the updates that stand
in the queue behind what stood there. Each post asks from just above the last update stored, the ids
of what is stored rise from the first offset on, and no update of a batch in order is left out. -/
namespace BotGateway.LongPolling
variable {site : Type}

def question (polling : LongPolling) (offset : Int) : Value :=
  .map [(.text "offset",.int offset),(.text "limit",polling.limit),
    (.text "timeout",polling.timeout),(.text "allowed_updates",polling.allowed)]

def called (polling : LongPolling) (offset : Int) (scene : Scene (Station site)) :
    Except Failure Value × Scene Outside :=
  (polling.client.call Method.getUpdates.endpoint (polling.question offset)
    Method.getUpdates.result).perform ⟨scene.journal,scene.world.outside⟩

theorem askedCalled (polling : LongPolling) (offset : Int) (scene : Scene (Station site)) :
    polling.asked offset scene =
      ((polling.called offset scene).1.map batchOf,(polling.called offset scene).2) := by
  have calls : polling.ask offset = batchOf <$> polling.client.call Method.getUpdates.endpoint
    (polling.question offset) Method.getUpdates.result := rfl
  rw [asked,calls,Action.perform_map,called]

namespace Stride

def queue (stride : Stride site) : UpdateQueue Value := stride.moment.scene.world.queue

def line (stride : Stride site) : Line := stride.moment.scene.world.outside.line

def stored (stride : Stride site) : List Value :=
  (stride.after.world.queue.slots.drop stride.queue.slots.length).filterMap Slot.value?

def turned (stride : Stride site) : Bool :=
  match stride.moment.poller.phase with
  | .delivering [] => true
  | _ => false

def offers (stride : Stride site) : Bool :=
  match stride.moment.poller.phase with
  | .offering _ _ => true
  | _ => false

def halted (stride : Stride site) : Bool := stride.offers && stride.queue.stopped

def waits (stride : Stride site) : Bool :=
  stride.offers && !stride.queue.stopped && !stride.queue.hasRoom

structure Does (stride : Stride site) (move : Move) : Prop where
  stored : stride.stored = move.accepted?.toList
  queue : stride.after.world.queue =
    {stride.queue with slots := stride.queue.slots ++ stride.stored.map .update}
  turned : stride.turned = move.isTurn
  waits : stride.waits = move.isWait
  halted : ∀ update, move = .refuses update → stride.halted = true

variable {polling : LongPolling} {stride : Stride site} {move : Move}

theorem storedNothing (same : stride.after.world.queue = stride.queue) : stride.stored = [] := by
  rw [stored,same,List.drop_length]
  rfl

theorem doesNothing (same : stride.after.world.queue = stride.queue)
    (silent : move.accepted? = none) (turned : stride.turned = move.isTurn)
    (waits : stride.waits = move.isWait)
    (halted : ∀ update, move = .refuses update → stride.halted = true) : stride.Does move := by
  have nothing := storedNothing same
  refine ⟨?_,?_,turned,waits,halted⟩
  · rw [nothing,silent]
    rfl
  · rw [nothing,same,List.map_nil,List.append_nil]

theorem does (turn : Turn polling stride.moment.scene stride.moment.poller.offset
      stride.moment.poller.phase move stride.poller stride.after.world) : stride.Does move := by
  obtain ⟨⟨⟨offset,phase⟩,scene⟩,poller,⟨journal,world⟩⟩ := stride
  dsimp only at turn
  cases turn with
  | stops | goes | answered | failed | turns | skips | picks | rests =>
    refine doesNothing rfl rfl rfl rfl fun update same => ?_
    cases same
  | waits running full =>
    refine doesNothing rfl rfl rfl ?_ fun update same => ?_
    · simp only [Stride.waits,offers,queue,running,full]
      rfl
    · cases same
  | refuses stopped =>
    refine doesNothing rfl rfl rfl ?_ fun update _ => ?_
    · simp only [Stride.waits,offers,queue,stopped]
      rfl
    · simp only [Stride.halted,offers,queue,stopped]
      rfl
  | @accepts update batch running room =>
    have grown : Stride.stored ⟨⟨⟨offset,.offering update batch⟩,scene⟩,⟨offset,.delivering batch⟩,
        ⟨journal,{scene.world with queue :=
          {scene.world.queue with slots := scene.world.queue.slots ++ [Slot.update update]}}⟩⟩ =
        [update] := by
      simp [Stride.stored,queue,Slot.value?]
    refine ⟨grown,by rw [grown]; rfl,rfl,?_,fun update same => ?_⟩
    · simp only [Stride.waits,offers,queue,running,room]
      rfl
    · cases same

end Stride

def stored (strides : List (Stride site)) : List Value := strides.flatMap Stride.stored

def nextOffset (offset : Int) (strides : List (Stride site)) : Int :=
  match (stored strides).getLast? with
  | none => offset
  | some update => identifier update + 1

def inBatch (strides : List (Stride site)) : List (Stride site) :=
  strides.takeWhile fun stride => !stride.turned

section Labels
variable {polling : LongPolling} {strides : List (Stride site)} {offset : Int} {batch : List Value}

theorem storedAccepted (does : ∀ stride ∈ strides, stride.Does (stride.move polling)) :
    accepted (strides.map (Stride.move polling)) = stored strides := by
  induction strides with
  | nil => rfl
  | cons stride rest ih =>
    obtain ⟨here,later⟩ := List.forall_mem_cons.mp does
    rw [stored,List.flatMap_cons,← stored,← ih later,here.stored]
    cases taken : (stride.move polling).accepted? <;> simp [accepted,taken]

theorem nextDue (does : ∀ stride ∈ strides, stride.Does (stride.move polling)) :
    due offset (strides.map (Stride.move polling)) = nextOffset offset strides := by
  rw [due,storedAccepted does]
  rfl

theorem inBatchMoves (does : ∀ stride ∈ strides, stride.Does (stride.move polling)) :
    untilTurn (strides.map (Stride.move polling)) = (inBatch strides).map (Stride.move polling) := by
  unfold untilTurn inBatch
  induction strides with
  | nil => rfl
  | cons stride rest ih =>
    obtain ⟨here,later⟩ := List.forall_mem_cons.mp does
    rw [List.map_cons,List.takeWhile_cons,List.takeWhile_cons,here.turned,ih later]
    cases (stride.move polling).isTurn <;> rfl

theorem waitingSteps (does : ∀ stride ∈ strides, stride.Does (stride.move polling)) :
    waiting (strides.map (Stride.move polling)) = strides.countP Stride.waits := by
  rw [waiting,List.countP_map]
  refine List.countP_congr fun stride member => ?_
  rw [(does stride member).waits]
  rfl

theorem storedInBatch (does : ∀ stride ∈ strides, stride.Does (stride.move polling)) :
    accepted (untilTurn (strides.map (Stride.move polling))) = stored (inBatch strides) := by
  rw [inBatchMoves does]
  exact storedAccepted fun stride member => does stride ((List.takeWhile_prefix _).mem member)

end Labels

section Posting
variable {polling : LongPolling} {stride : Stride site} {due : Int}

def settings (polling : LongPolling) : List (Value × Value) :=
  [(.text "limit",polling.limit),(.text "timeout",polling.timeout),
    (.text "allowed_updates",polling.allowed)]

def Stride.encoded (polling : LongPolling) (due : Int) (stride : Stride site) :
    Except Failure Payload :=
  Payload.encoded polling.client.boundary (polling.question due)
    ⟨stride.moment.scene.journal,stride.moment.scene.world.outside.shelf⟩

/-- What leaves the world in a step: one post that asks from `due` on where the poller asks, unless
the question cannot be written, and nothing elsewhere. -/
inductive Posts (polling : LongPolling) (due : Int) (stride : Stride site) : Prop where
  | nothing (other : stride.moment.poller.phase ≠ .asking)
      (same : stride.after.world.outside = stride.moment.scene.world.outside)
  | unsent {failure : Failure} (asks : stride.moment.poller.phase = .asking)
      (encoded : stride.encoded polling due = .error failure)
      (same : stride.after.world.outside.line = stride.line)
  | sent {payload : Payload} (asks : stride.moment.poller.phase = .asking)
      (encoded : stride.encoded polling due = .ok payload)
      (line : stride.after.world.outside.line =
        stride.line.after (polling.client.post Method.getUpdates.endpoint payload))
      (read : (∀ setting ∈ polling.settings, setting.2.Composed) →
        payload.contentType = Payload.documentType ∧ Json.ofTolerantBytes? payload.body =
          some (.object (("offset",.int due) :: Value.outlineEntries polling.settings)))

theorem questionComposed (offset : Int)
    (composed : ∀ setting ∈ polling.settings, setting.2.Composed) :
    (polling.question offset).Composed := by
  refine .map ?_ (List.forall_mem_cons.mpr ⟨.int offset,composed⟩)
  show (["offset","limit","timeout","allowed_updates"] : List Text).Nodup
  decide

theorem questionPosted (asks : stride.moment.poller.phase = .asking)
    (outside : stride.after.world.outside = (polling.called due stride.moment.scene).2.world) :
    Posts polling due stride := by
  have call := Client.callAnswered polling.client Method.getUpdates.endpoint
    (polling.question due) Method.getUpdates.result
    ⟨stride.moment.scene.journal,stride.moment.scene.world.outside⟩
  cases encoded : stride.encoded polling due with
  | error failure =>
    refine .unsent asks encoded ?_
    rw [outside]
    exact (call.unsent failure encoded).2
  | ok payload =>
    refine .sent asks encoded ?_ fun composed => ?_
    · rw [outside]
      exact (call.sent payload encoded).1
    · exact Payload.outlineRead rfl (questionComposed due composed) encoded

theorem turnOutside {scene : Scene (Station site)} {offset : Int} {phase : Phase} {move : Move}
    {poller : Poller} {station : Station site}
    (turn : Turn polling scene offset phase move poller station) :
    (phase = .asking ∧ station.outside = (polling.called offset scene).2.world) ∨
      (phase ≠ .asking ∧ station.outside = scene.world.outside) := by
  cases turn with
  | answered | failed =>
    left
    rw [past,askedCalled]
    exact ⟨rfl,rfl⟩
  | _ =>
    right
    refine ⟨fun same => ?_,rfl⟩
    cases same

theorem stepPosts (turn : Turn polling stride.moment.scene stride.moment.poller.offset
      stride.moment.poller.phase (stride.move polling) stride.poller stride.after.world)
    (same : stride.moment.poller.phase = .asking → stride.moment.poller.offset = due) :
    Posts polling due stride := by
  rcases turnOutside turn with ⟨asks,outside⟩ | ⟨other,kept⟩
  · rw [same asks] at outside
    exact questionPosted asks outside
  · exact .nothing other kept

end Posting

inductive Answered (polling : LongPolling) (offset : Int) :
    List (Stride site) → Int → List Value → List (Stride site) → Prop where
  | call {before since : List (Stride site)} {stride : Stride site} {value : Value}
      (asks : stride.moment.poller.phase = .asking)
      (answer : (polling.called (nextOffset offset before) stride.moment.scene).1 = .ok value) :
      Answered polling offset (before ++ stride :: since) (nextOffset offset before)
        (batchOf value) since

/-- The poller turned away from the batch, or no stop cut it off and it made as many steps as the
batch takes, those of waiting for room not counted. -/
def WorkedThrough (batch : List Value) (since : List (Stride site)) : Prop :=
  (∃ stride ∈ since, stride.turned = true) ∨
    (∀ stride ∈ since, stride.halted = false) ∧
      2 * batch.length + 1 + since.countP Stride.waits ≤ since.length

structure Delivers (polling : LongPolling) (offset : Int) (strides : List (Stride site)) : Prop where
  rising : (stored strides).Pairwise fun earlier later => identifier earlier < identifier later
  above : ∀ update ∈ stored strides, offset ≤ identifier update
  queue : ∀ stride ∈ strides, stride.after.world.queue =
    {stride.queue with slots := stride.queue.slots ++ stride.stored.map .update}
  posts : ∀ before stride since, strides = before ++ stride :: since →
    Posts polling (nextOffset offset before) stride
  part : ∀ asked batch since, Answered polling offset strides asked batch since →
    stored (inBatch since) <+: fresh asked batch
  whole : ∀ asked batch since, Answered polling offset strides asked batch since →
    WorkedThrough batch since →
      (batch.Pairwise fun earlier later => identifier earlier < identifier later) →
        stored (inBatch since) = batch.filter fun update => asked ≤ identifier update
  repeated : ∀ asked batch since, Answered polling offset strides asked batch since →
    WorkedThrough batch since →
      (batch.Pairwise fun earlier later => identifier earlier ≤ identifier later) →
        ∀ update ∈ batch, asked ≤ identifier update →
          ∃ other ∈ stored (inBatch since), identifier other = identifier update

section Delivering
variable {polling : LongPolling} {first last : Moment site} {strides since : List (Stride site)}
  {offset asked : Int} {batch : List Value}

theorem Trail.does (trail : Trail polling first strides last) :
    ∀ stride ∈ strides, stride.Does (stride.move polling) :=
  fun stride member => Stride.does (trail.turns stride member)

theorem Trail.atCall {before : List (Stride site)} {stride : Stride site}
    (trail : Trail polling first (before ++ stride :: since) last)
    (start : first.poller = ⟨offset,.checking⟩) (asks : stride.moment.poller.phase = .asking) :
    stride.moment.poller.offset = nextOffset offset before ∧
      ∀ batch, (polling.asked stride.moment.poller.offset stride.moment.scene).1 = .ok batch →
        WorksOff ⟨stride.moment.poller.offset,.delivering batch⟩
          (since.map (Stride.move polling)) := by
  have course := trail.course
  have early : ∀ earlier ∈ before, earlier.Does (earlier.move polling) :=
    fun earlier member => trail.does earlier (List.mem_append_left _ member)
  have move : stride.move polling = .asks stride.moment.poller.offset
      (polling.asked stride.moment.poller.offset stride.moment.scene).1 := by
    rw [Stride.move,moveOf,asks]
  rw [List.map_append,List.map_cons,move] at course
  obtain ⟨asked,works⟩ := askedDue course start
  rw [nextDue early] at asked
  exact ⟨asked,works⟩

theorem answeredWorks (trail : Trail polling first strides last)
    (start : first.poller = ⟨offset,.checking⟩)
    (answered : Answered polling offset strides asked batch since) :
    (∀ stride ∈ since, stride.Does (stride.move polling)) ∧
      WorksOff ⟨asked,.delivering batch⟩ (since.map (Stride.move polling)) := by
  cases answered with
  | @call before _ stride value asks answer =>
    obtain ⟨same,works⟩ := trail.atCall start asks
    rw [same] at works
    have given : (polling.asked (nextOffset offset before) stride.moment.scene).1 =
        .ok (batchOf value) := by
      rw [askedCalled,answer]
      rfl
    exact ⟨fun later member => trail.does later
      (List.mem_append_right _ (List.mem_cons_of_mem _ member)),works _ given⟩

theorem Move.turnOf {move : Move} (turned : move.isTurn = true) : move = .turns := by
  cases move with
  | turns => rfl
  | _ => cases turned

theorem workedThrough (does : ∀ stride ∈ since, stride.Does (stride.move polling))
    (works : WorksOff ⟨asked,.delivering batch⟩ (since.map (Stride.move polling)))
    (done : WorkedThrough batch since) : stored (inBatch since) = fresh asked batch := by
  rw [← storedInBatch does]
  refine workedOff works ?_
  obtain ⟨stride,member,turned⟩ | ⟨running,enough⟩ := done
  · left
    rw [(does stride member).turned] at turned
    exact List.mem_map.mpr ⟨stride,member,Move.turnOf turned⟩
  · right
    refine ⟨?_,?_⟩
    · intro update among
      obtain ⟨stride,member,same⟩ := List.mem_map.mp among
      have halted := (does stride member).halted update same
      rw [running stride member] at halted
      cases halted
    · rw [waitingSteps does,List.length_map]
      exact enough

theorem trailDelivers (trail : Trail polling first strides last)
    (start : first.poller = ⟨offset,.checking⟩) : Delivers polling offset strides := by
  have kept := keptStart offset
  rw [← start] at kept
  have final := keptCourse kept trail.course
  rw [List.nil_append] at final
  have same := storedAccepted trail.does
  constructor
  case rising =>
    rw [← same]
    exact final.rising
  case above =>
    intro update member
    rw [← same] at member
    exact (final.within update member).1
  case queue =>
    intro stride member
    exact (trail.does stride member).queue
  case posts =>
    rintro before stride since rfl
    have member : stride ∈ before ++ stride :: since := List.mem_append_right _ List.mem_cons_self
    exact stepPosts (trail.turns stride member) fun asks => (trail.atCall start asks).1
  case part =>
    intro asked batch since answered
    obtain ⟨does,works⟩ := answeredWorks trail start answered
    rw [← storedInBatch does]
    exact works.part
  case whole =>
    intro asked batch since answered done ascending
    obtain ⟨does,works⟩ := answeredWorks trail start answered
    rw [workedThrough does works done]
    exact freshAscending ascending
  case repeated =>
    intro asked batch since answered done sorted update member new
    obtain ⟨does,works⟩ := answeredWorks trail start answered
    rw [workedThrough does works done]
    exact freshRepeated sorted member new

end Delivering

/-- `steps`: no step fails, so every trail goes on. `runs`: a run of the poller makes a trail. -/
structure Polls (polling : LongPolling) (offset : Int) (scene : Scene (Station site)) : Prop where
  delivers : ∀ strides last, Trail polling ⟨⟨offset,.checking⟩,scene⟩ strides last →
    Delivers polling offset strides
  steps : ∀ moment : Moment site, ∃ poller after,
    (polling.step moment.poller).perform moment.scene = (.ok poller,after)
  runs : ∀ others n poller after,
    (run polling others n ⟨offset,.checking⟩).perform scene = (.ok poller,after) →
      ∃ strides left, Trail polling ⟨⟨offset,.checking⟩,scene⟩ strides ⟨poller,left⟩

theorem pollsInOrder (polling : LongPolling) (offset : Int) (scene : Scene (Station site)) :
    Polls polling offset scene := by
  constructor
  case delivers =>
    intro strides last trail
    exact trailDelivers trail rfl
  case steps =>
    intro moment
    obtain ⟨poller,after,steps,_⟩ :=
      stepTurns polling moment.poller.offset moment.scene moment.poller.phase
    exact ⟨poller,after,steps⟩
  case runs =>
    intro others n poller after runs
    exact runTrail others n runs

def letterPolling : LongPolling :=
  ⟨⟨"1:a","https://api.telegram.org",.null,"b"⟩,.null,.int 8,.null,.int 0,.int 8⟩

def letterReply : Reply :=
  .answered 200 (ascii "\x7b\"ok\":true,\"result\":[\x7b\"update_id\":4\x7d,\x7b\"update_id\":7\x7d]\x7d")

def letterStart : Moment Unit :=
  ⟨⟨5,.checking⟩,⟨.empty,⟨⟨[],⟨[letterReply],.failed .webhookClosed,[]⟩⟩,.empty 1,()⟩⟩⟩

theorem letterPolled : (stored (walk letterPolling 8 letterStart).1).map identifier = [7] ∧
    (walk letterPolling 8 letterStart).2.scene.world.outside.line.sent.map Post.body =
      [ascii "\x7b\"offset\":5,\"timeout\":8\x7d",ascii "\x7b\"offset\":8,\"timeout\":8\x7d"] ∧
    Delivers letterPolling 5 (walk letterPolling 8 letterStart).1 :=
  ⟨by decide +kernel,by decide +kernel,
    (pollsInOrder letterPolling 5 letterStart.scene).delivers _ _
      (walkTrail letterPolling 8 letterStart)⟩

end BotGateway.LongPolling
