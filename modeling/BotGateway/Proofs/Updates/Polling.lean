import BotGateway.Proofs.Action
import BotGateway.Proofs.Updates.Queue
import BotGateway.Updates.LongPolling

/-! Courses of a poller: its steps one after another, with anything at all happening at the station
between two of them. Every step makes one move. -/
namespace BotGateway.LongPolling
variable {site : Type}

structure Moment (site : Type) where
  poller : Poller
  scene : Scene (Station site)

inductive Move where
  | checks
  | asks (offset : Int) (outcome : Except Failure (List Value))
  | skips (update : Value)
  | picks (update : Value)
  | accepts (update : Value)
  | waits (update : Value)
  | refuses (update : Value)
  | turns
  | rests

def asked (polling : LongPolling) (offset : Int) (scene : Scene (Station site)) :
    Except Failure (List Value) × Scene Outside :=
  (polling.ask offset).perform ⟨scene.journal,scene.world.outside⟩

def past (polling : LongPolling) (offset : Int) (scene : Scene (Station site)) :
    Scene (Station site) :=
  ⟨(polling.asked offset scene).2.journal,
    ⟨(polling.asked offset scene).2.world,scene.world.queue,scene.world.site⟩⟩

def moveOf (polling : LongPolling) (moment : Moment site) : Move :=
  match moment.poller.phase with
  | .checking => .checks
  | .asking => .asks moment.poller.offset (polling.asked moment.poller.offset moment.scene).1
  | .delivering [] => .turns
  | .delivering (update :: _) =>
    if identifier update < moment.poller.offset then .skips update else .picks update
  | .offering update _ =>
    match (moment.scene.world.queue.offer update).1 with
    | .accepted => .accepts update
    | .full => .waits update
    | .refused => .refuses update
  | .over => .rests

def afterward (polling : LongPolling) (failure : Failure) : Phase :=
  if failure.kind.isSdk && polling.retry.isTruthy then pause polling.retry else .over

theorem pauseEither (seconds : Value) : pause seconds = .checking ∨ pause seconds = .over := by
  unfold pause
  split
  · exact .inl rfl
  · exact .inr rfl

theorem afterwardEither (polling : LongPolling) (failure : Failure) :
    polling.afterward failure = .checking ∨ polling.afterward failure = .over := by
  unfold afterward
  split
  · exact pauseEither polling.retry
  · exact .inr rfl

inductive Turn (polling : LongPolling) (scene : Scene (Station site)) (offset : Int) :
    Phase → Move → Poller → Station site → Prop where
  | stops (stopped : scene.world.queue.stopped = true) :
      Turn polling scene offset .checking .checks ⟨offset,.over⟩ scene.world
  | goes (running : scene.world.queue.stopped = false) :
      Turn polling scene offset .checking .checks ⟨offset,.asking⟩ scene.world
  | answered {batch : List Value} (answer : (polling.asked offset scene).1 = .ok batch) :
      Turn polling scene offset .asking (.asks offset (.ok batch)) ⟨offset,.delivering batch⟩
        (polling.past offset scene).world
  | failed {failure : Failure} (answer : (polling.asked offset scene).1 = .error failure) :
      Turn polling scene offset .asking (.asks offset (.error failure))
        ⟨offset,polling.afterward failure⟩ (polling.past offset scene).world
  | turns : Turn polling scene offset (.delivering []) .turns ⟨offset,pause polling.interval⟩ scene.world
  | skips {update : Value} {batch : List Value} (below : identifier update < offset) :
      Turn polling scene offset (.delivering (update :: batch)) (.skips update)
        ⟨offset,.delivering batch⟩ scene.world
  | picks {update : Value} {batch : List Value} (new : offset ≤ identifier update) :
      Turn polling scene offset (.delivering (update :: batch)) (.picks update)
        ⟨identifier update + 1,.offering update batch⟩ scene.world
  | accepts {update : Value} {batch : List Value} (running : scene.world.queue.stopped = false)
      (room : scene.world.queue.hasRoom = true) :
      Turn polling scene offset (.offering update batch) (.accepts update)
        ⟨offset,.delivering batch⟩ {scene.world with queue :=
          {scene.world.queue with slots := scene.world.queue.slots ++ [Slot.update update]}}
  | waits {update : Value} {batch : List Value} (running : scene.world.queue.stopped = false)
      (full : scene.world.queue.hasRoom = false) :
      Turn polling scene offset (.offering update batch) (.waits update)
        ⟨offset,.offering update batch⟩ scene.world
  | refuses {update : Value} {batch : List Value} (stopped : scene.world.queue.stopped = true) :
      Turn polling scene offset (.offering update batch) (.refuses update) ⟨offset,.over⟩ scene.world
  | rests : Turn polling scene offset .over .rests ⟨offset,.over⟩ scene.world

section Steps
variable (polling : LongPolling) (offset : Int) (scene : Scene (Station site))

theorem failureEnds (failure : Failure) : ∃ after,
    (afterFailure polling failure : Action (Station site) Phase).perform scene =
      (.ok (polling.afterward failure),after) ∧ after.world = scene.world := by
  unfold afterFailure afterward
  cases failure.kind.isSdk with
  | true =>
    cases polling.retry.isTruthy <;> exact ⟨_,rfl,rfl⟩
  | false => exact ⟨_,rfl,rfl⟩

theorem stepTurns (phase : Phase) : ∃ poller after,
    (polling.step ⟨offset,phase⟩).perform scene = (.ok poller,after) ∧
      Turn polling scene offset phase (polling.moveOf ⟨⟨offset,phase⟩,scene⟩) poller after.world := by
  cases phase with
  | checking =>
    simp only [step,Action.perform_bind,Action.perform_current]
    cases stopped : scene.world.queue.stopped with
    | true => exact ⟨⟨offset,.over⟩,scene,rfl,.stops stopped⟩
    | false => exact ⟨⟨offset,.asking⟩,scene,rfl,.goes stopped⟩
  | asking =>
    have outcome : (Action.outcome (Station.onOutside (polling.ask offset))).perform scene =
        (.ok (polling.asked offset scene).1,polling.past offset scene) := rfl
    simp only [step,moveOf,Action.perform_bind,outcome]
    cases answer : (polling.asked offset scene).1 with
    | ok batch => exact ⟨⟨offset,.delivering batch⟩,polling.past offset scene,rfl,.answered answer⟩
    | error failure =>
      obtain ⟨after,ends,same⟩ := failureEnds polling (polling.past offset scene) failure
      have turn : Turn polling scene offset .asking (.asks offset (.error failure))
          ⟨offset,polling.afterward failure⟩ (polling.past offset scene).world := .failed answer
      rw [← same] at turn
      refine ⟨⟨offset,polling.afterward failure⟩,after,?_,turn⟩
      simp only [Action.perform_bind,ends]
      rfl
  | delivering batch =>
    cases batch with
    | nil => exact ⟨_,_,rfl,.turns⟩
    | cons update rest =>
      by_cases below : identifier update < offset
      · refine ⟨⟨offset,.delivering rest⟩,scene,by simp [step,below],?_⟩
        rw [moveOf]
        dsimp only
        rw [if_pos below]
        exact .skips below
      · refine ⟨⟨identifier update + 1,.offering update rest⟩,scene,by simp [step,below],?_⟩
        rw [moveOf]
        dsimp only
        rw [if_neg below]
        exact .picks (Int.not_lt.mp below)
  | offering update rest =>
    simp only [step,moveOf,Action.perform_bind,Action.perform_current,Station.changeQueue,
      Action.perform_change]
    obtain ⟨stopped,found⟩ | ⟨running,room,found⟩ | ⟨running,full,found⟩ :=
      UpdateQueue.offerCases update scene.world.queue
    · rw [found]
      exact ⟨_,_,rfl,.refuses stopped⟩
    · rw [found]
      exact ⟨_,_,rfl,.accepts running room⟩
    · rw [found]
      exact ⟨_,_,rfl,.waits running full⟩
  | «over» => exact ⟨_,_,rfl,.rests⟩

theorem stepped {poller : Poller} {moment : Moment site} {after : Scene (Station site)}
    (steps : (polling.step moment.poller).perform moment.scene = (.ok poller,after)) :
    Turn polling moment.scene moment.poller.offset moment.poller.phase (polling.moveOf moment) poller
      after.world := by
  obtain ⟨other,scene,ends,turn⟩ :=
    stepTurns polling moment.poller.offset moment.scene moment.poller.phase
  cases ends.symm.trans steps
  exact turn

end Steps

structure Stride (site : Type) where
  moment : Moment site
  poller : Poller
  after : Scene (Station site)

def Stride.move (polling : LongPolling) (stride : Stride site) : Move := polling.moveOf stride.moment

inductive Trail (polling : LongPolling) : Moment site → List (Stride site) → Moment site → Prop where
  | here (moment : Moment site) : Trail polling moment [] moment
  | on {moment last : Moment site} {strides : List (Stride site)} {poller : Poller}
      {after : Scene (Station site)}
      (steps : (polling.step moment.poller).perform moment.scene = (.ok poller,after))
      (scene : Scene (Station site)) (rest : Trail polling ⟨poller,scene⟩ strides last) :
      Trail polling moment (⟨moment,poller,after⟩ :: strides) last

inductive Course (polling : LongPolling) : Moment site → List Move → Moment site → Prop where
  | here (moment : Moment site) : Course polling moment [] moment
  | on {moment last : Moment site} {moves : List Move} {poller : Poller}
      {after : Scene (Station site)}
      (steps : (polling.step moment.poller).perform moment.scene = (.ok poller,after))
      (scene : Scene (Station site)) (rest : Course polling ⟨poller,scene⟩ moves last) :
      Course polling moment (polling.moveOf moment :: moves) last

section Courses
variable {polling : LongPolling} {first last : Moment site}

theorem Trail.course {strides : List (Stride site)} (trail : Trail polling first strides last) :
    Course polling first (strides.map (Stride.move polling)) last := by
  induction trail with
  | here moment => exact .here moment
  | on steps scene rest ih => exact .on steps scene ih

theorem Trail.turns {strides : List (Stride site)} (trail : Trail polling first strides last) :
    ∀ stride ∈ strides, Turn polling stride.moment.scene stride.moment.poller.offset
      stride.moment.poller.phase (stride.move polling) stride.poller stride.after.world := by
  induction trail with
  | here => exact List.forall_mem_nil _
  | on steps scene rest ih =>
    intro stride member
    obtain rfl | inside := List.mem_cons.mp member
    · exact stepped polling steps
    · exact ih stride inside

theorem Course.cut {before after : List Move} (course : Course polling first (before ++ after) last) :
    ∃ middle, Course polling first before middle ∧ Course polling middle after last := by
  induction before generalizing first with
  | nil => exact ⟨first,.here first,course⟩
  | cons move moves ih =>
    cases course with
    | on steps scene rest =>
      obtain ⟨middle,early,late⟩ := ih rest
      exact ⟨middle,.on steps scene early,late⟩

theorem Course.elsewhere {moves : List Move} (course : Course polling first moves last)
    (scene : Scene (Station site)) :
    ∃ start, Course polling ⟨first.poller,start⟩ moves ⟨last.poller,scene⟩ := by
  induction course with
  | here moment => exact ⟨scene,.here _⟩
  | on steps between rest ih =>
    obtain ⟨start,rest⟩ := ih
    exact ⟨_,.on steps start rest⟩

theorem Course.further {moves : List Move} {poller : Poller} {after : Scene (Station site)}
    (course : Course polling first moves last)
    (steps : (polling.step last.poller).perform last.scene = (.ok poller,after)) :
    Course polling first (moves ++ [polling.moveOf last]) ⟨poller,after⟩ := by
  induction course with
  | here moment => exact .on steps after (.here _)
  | on earlier between rest ih => exact .on earlier between (ih steps)

def walk (polling : LongPolling) : Nat → Moment site → List (Stride site) × Moment site
  | 0, moment => ([],moment)
  | n + 1, moment =>
    match (polling.step moment.poller).perform moment.scene with
    | (.ok poller,after) =>
      let (strides,last) := walk polling n ⟨poller,after⟩
      (⟨moment,poller,after⟩ :: strides,last)
    | (.error _,_) => ([],moment)

theorem walkTrail (polling : LongPolling) (n : Nat) (moment : Moment site) :
    Trail polling moment (walk polling n moment).1 (walk polling n moment).2 := by
  induction n generalizing moment with
  | zero => exact .here moment
  | succ n ih =>
    obtain ⟨poller,after,steps,_⟩ :=
      stepTurns polling moment.poller.offset moment.scene moment.poller.phase
    have steps : (polling.step moment.poller).perform moment.scene = (.ok poller,after) := steps
    simp only [walk,steps]
    exact .on steps after (ih ⟨poller,after⟩)

def alone (polling : LongPolling) (n : Nat) (moment : Moment site) : List Move × Moment site :=
  let (strides,last) := walk polling n moment
  (strides.map (Stride.move polling),last)

theorem aloneCourse (polling : LongPolling) (n : Nat) (moment : Moment site) :
    Course polling moment (alone polling n moment).1 (alone polling n moment).2 :=
  (walkTrail polling n moment).course

theorem runTrail (others : Action (Station site) Unit) (n : Nat) {poller final : Poller}
    {scene after : Scene (Station site)}
    (runs : (run polling others n poller).perform scene = (.ok final,after)) :
    ∃ strides left, Trail polling ⟨poller,scene⟩ strides ⟨final,left⟩ := by
  induction n generalizing poller scene with
  | zero =>
    cases runs
    exact ⟨[],_,.here _⟩
  | succ n ih =>
    rw [run] at runs
    split at runs
    · cases runs
      exact ⟨[],scene,.here _⟩
    · obtain ⟨next,between,steps,_⟩ := stepTurns polling poller.offset scene poller.phase
      rw [Action.perform_bind,steps] at runs
      dsimp only at runs
      rw [Action.perform_bind] at runs
      rcases went : others.perform between with ⟨_ | _,left⟩
      · rw [went] at runs
        cases runs
      · rw [went] at runs
        obtain ⟨strides,last,rest⟩ := ih runs
        exact ⟨_,last,.on steps left rest⟩

end Courses
end BotGateway.LongPolling
