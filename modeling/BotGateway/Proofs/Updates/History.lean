import BotGateway.Proofs.Updates.Queue
import Mathlib.Data.List.Induction

/-! Histories of a queue: what its producers and consumers did, in the order in which their steps
took effect, and what each was told. Whatever they do, updates come out as they went in, nothing
goes in after the stop, and of the one marker that follows it every consumer hears in the end. -/
namespace BotGateway.UpdateQueue
variable {α : Type}

inductive Operation (α : Type) where
  | put (value : α)
  | stop
  | settle
  | get
  | take
  | putBack

structure History (α : Type) where
  scene : Scene (UpdateQueue α)
  offered : List (α × Except Failure Unit)
  told : List (Except Failure (Option α))

def Offer.told (refusal : Failure) : Offer → Except Failure Unit
  | .accepted => .ok ()
  | .full => .error .queueFull
  | .refused => .error refusal

theorem putOffers (refusal : Failure) (value : α) (scene : Scene (UpdateQueue α)) :
    (put refusal value).perform scene =
      ((scene.world.offer value).1.told refusal,⟨scene.journal,(scene.world.offer value).2⟩) := by
  simp only [put,Action.perform_bind,Action.perform_current,Action.perform_change]
  cases (scene.world.offer value).1 <;> rfl

inductive Front (queue : UpdateQueue α) : Prop where
  | update (value : α) (rest : List (Slot α)) (first : queue.slots = .update value :: rest)
      (get : queue.get = (.update value,{queue with slots := rest}))
      (take : queue.take = (.update value,{queue with slots := rest}))
  | marker (drained : queue.updates = []) (stopped : queue.stopped = true)
      (placed : queue.pending = false) (get : queue.get = (.ended,queue))
      (take : queue.take = (.ended,{queue with slots := [],held := 1}))
  | nothing (first : queue.slots = []) (get : queue.get = (.nothing,queue))
      (take : queue.take = (.nothing,queue))

theorem Sound.front {queue : UpdateQueue α} (sound : queue.Sound) : Front queue := by
  cases first : queue.slots with
  | nil => exact .nothing first (by simp [get,take,first]) (by simp [take,first])
  | cons slot rest =>
    cases slot with
    | update value => exact .update value rest first (by simp [get,take,first]) (by simp [take,first])
    | marker =>
      obtain ⟨rfl,drained,_,free,placed,stopped⟩ := sound.ended first
      have take : queue.take = (.ended,{queue with slots := [],held := 1}) := by
        simp [take,first,free]
      obtain ⟨_,_,other,_⟩ | ⟨_,_,get⟩ | ⟨_,get⟩ := sound.getCases
      · rw [first] at other
        cases other
      · exact .marker drained stopped placed get take
      · rw [UpdateQueue.get,take] at get
        cases get

theorem Sound.markerAt {queue : UpdateQueue α} (sound : queue.Sound)
    (stopped : queue.stopped = true) (drained : queue.updates = []) :
    (queue.slots = [] ∧ queue.pending = true ∧ queue.held = 0) ∨
    (queue.slots = [.marker] ∧ queue.pending = false ∧ queue.held = 0) ∨
    (queue.slots = [] ∧ queue.pending = false ∧ queue.held = 1) := by
  have balance := sound.balance
  rw [sound.behind,drained]
  rw [stopped,Bool.toNat_true] at balance
  cases pending : queue.pending with
  | true =>
    rw [pending,Bool.toNat_true] at balance
    obtain ⟨none,free⟩ : queue.markers = 0 ∧ queue.held = 0 := by omega
    exact .inl ⟨by rw [none]; rfl,rfl,free⟩
  | false =>
    rw [pending,Bool.toNat_false] at balance
    obtain ⟨one,free⟩ | ⟨none,held⟩ :
        queue.markers = 1 ∧ queue.held = 0 ∨ queue.markers = 0 ∧ queue.held = 1 := by omega
    · exact .inr (.inl ⟨by rw [one]; rfl,rfl,free⟩)
    · exact .inr (.inr ⟨by rw [none]; rfl,rfl,held⟩)

namespace History

def queue (history : History α) : UpdateQueue α := history.scene.world

def accepted (history : History α) : List α :=
  history.offered.filterMap fun (value,result) => result.toOption.map fun _ => value

def yielded (history : History α) : List α :=
  history.told.filterMap fun result => result.toOption.join

def fresh (bound : Int) (journal : Journal) : History α := ⟨⟨journal,empty bound⟩,[],[]⟩

def moved (history : History α) (queue : UpdateQueue α) : History α :=
  ⟨⟨history.scene.journal,queue⟩,history.offered,history.told⟩

def tell (history : History α) (result : Except Failure (Option α)) : History α :=
  ⟨history.scene,history.offered,history.told ++ [result]⟩

def step (refusal : Failure) (history : History α) : Operation α → History α
  | .put value =>
    let (result,after) := (UpdateQueue.put refusal value).perform history.scene
    ⟨after,history.offered ++ [(value,result)],history.told⟩
  | .stop => history.moved history.queue.stop
  | .settle => history.moved history.queue.settle
  | .get =>
    let (result,after) := next.perform history.scene
    ⟨after,history.offered,history.told ++ [result]⟩
  | .take =>
    let (taken,queue) := history.queue.take
    match taken with
    | .ended => history.moved queue
    | other => (history.moved queue).tell other.told
  | .putBack =>
    if 0 < history.queue.held && history.queue.hasRoom then
      (history.moved history.queue.putBack).tell (.ok none)
    else history

def run (refusal : Failure) (history : History α) (operations : List (Operation α)) : History α :=
  operations.foldl (step refusal) history

/-- `ended`: after one consumer heard of the end, every other does, or finds nothing while a third
one holds the marker. -/
structure Kept (bound : Int) (operations : List (Operation α)) (history : History α) : Prop where
  sound : history.queue.Sound
  bounded : history.queue.bound = bound
  fifo : history.accepted = history.yielded ++ history.queue.updates
  stopped : history.queue.stopped = true ↔ .stop ∈ operations
  holding : 0 < history.queue.held → .take ∈ operations ∧ history.queue.updates = []
  drained : .ok none ∈ history.told →
    history.queue.updates = [] ∧ history.queue.stopped = true ∧ history.queue.pending = false
  ended : history.told.Pairwise fun earlier later => earlier = .ok none →
    later = .ok none ∨ later = .error .nothingArrived ∧ .take ∈ operations

section Steps
variable {bound : Int} {operations : List (Operation α)} {history : History α}

theorem keptFresh (bound : Int) (journal : Journal) : Kept bound [] (fresh bound journal : History α) :=
  ⟨soundEmpty bound,rfl,rfl,by simp [fresh,queue,empty],by simp [fresh,queue,empty],nofun,.nil⟩

theorem endedLater (kept : Kept bound operations history) (operation : Operation α) :
    history.told.Pairwise fun earlier later => earlier = .ok none →
      later = .ok none ∨ later = .error .nothingArrived ∧ .take ∈ operations ++ [operation] := by
  refine kept.ended.imp fun later ended => ?_
  obtain same | ⟨nothing,took⟩ := later ended
  · exact .inl same
  · exact .inr ⟨nothing,List.mem_append_left _ took⟩

theorem endedTell (kept : Kept bound operations history) (operation : Operation α)
    (result : Except Failure (Option α)) (last : .ok none ∈ history.told →
      result = .ok none ∨ result = .error .nothingArrived ∧ .take ∈ operations ++ [operation]) :
    (history.told ++ [result]).Pairwise fun earlier later => earlier = .ok none →
      later = .ok none ∨ later = .error .nothingArrived ∧ .take ∈ operations ++ [operation] := by
  refine List.pairwise_append.mpr ⟨endedLater kept operation,List.pairwise_singleton _ _,?_⟩
  intro earlier member later same ended
  rw [List.mem_singleton.mp same]
  exact last (ended ▸ member)

theorem keptMoved {queue : UpdateQueue α} {operation : Operation α}
    (kept : Kept bound operations history) (sound : queue.Sound)
    (bounded : queue.bound = history.queue.bound) (updates : queue.updates = history.queue.updates)
    (stopped : queue.stopped = true ↔ .stop ∈ operations ++ [operation])
    (held : queue.held = history.queue.held)
    (placed : history.queue.stopped = true → history.queue.pending = false → queue.pending = false) :
    Kept bound (operations ++ [operation]) (history.moved queue) := by
  refine ⟨sound,bounded.trans kept.bounded,?_,stopped,?_,?_,endedLater kept operation⟩
  · rw [show (history.moved queue).queue.updates = _ from updates]
    exact kept.fifo
  · intro holds
    obtain ⟨took,none⟩ := kept.holding (held ▸ holds)
    exact ⟨List.mem_append_left _ took,updates.trans none⟩
  · intro ended
    obtain ⟨drained,still,idle⟩ := kept.drained ended
    have asked : .stop ∈ operations ++ [operation] := List.mem_append_left _ (kept.stopped.mp still)
    exact ⟨updates.trans drained,stopped.mpr asked,placed still idle⟩

theorem keptStop (kept : Kept bound operations history) (refusal : Failure) :
    Kept bound (operations ++ [.stop]) (history.step refusal .stop) := by
  obtain ⟨slots,bounded,held,stopped⟩ := stopKeeps history.queue
  refine keptMoved kept (soundStop kept.sound) bounded (by rw [updates,slots]; rfl) ?_ held ?_
  · simp [stopped]
  · intro already placed
    rw [stop,if_pos already]
    exact placed

theorem keptSettle (kept : Kept bound operations history) (refusal : Failure) :
    Kept bound (operations ++ [.settle]) (history.step refusal .settle) := by
  have settled : history.queue.settle.bound = history.queue.bound ∧
      history.queue.settle.stopped = history.queue.stopped ∧
      history.queue.settle.held = history.queue.held ∧
      (history.queue.pending = false → history.queue.settle.pending = false) := by
    obtain ⟨_,_,same⟩ | same := settleCases history.queue
    · simp [same]
    · simp [same]
  obtain ⟨bounded,stopped,held,placed⟩ := settled
  refine keptMoved kept (soundSettle kept.sound) bounded (updatesSettle _) ?_ held fun _ => placed
  rw [stopped,kept.stopped]
  simp

theorem stoppedSame {operation : Operation α} (kept : Kept bound operations history)
    (other : operation ≠ .stop) :
    history.queue.stopped = true ↔ .stop ∈ operations ++ [operation] := by
  rw [kept.stopped,List.mem_append,List.mem_singleton,or_iff_left other.symm]

theorem keptRejected (kept : Kept bound operations history) (value : α) (failure : Failure) :
    Kept bound (operations ++ [.put value])
      ⟨history.scene,history.offered ++ [(value,.error failure)],history.told⟩ := by
  have stopped : history.queue.stopped = true ↔ .stop ∈ operations ++ [.put value] :=
    stoppedSame kept nofun
  refine ⟨kept.sound,kept.bounded,?_,stopped,?_,kept.drained,endedLater kept _⟩
  · have same : accepted ⟨history.scene,history.offered ++ [(value,.error failure)],history.told⟩ =
        history.accepted := by
      simp [accepted,Except.toOption]
    rw [same]
    exact kept.fifo
  · intro held
    obtain ⟨took,none⟩ := kept.holding held
    exact ⟨List.mem_append_left _ took,none⟩

theorem keptPut (kept : Kept bound operations history) (refusal : Failure) (value : α) :
    Kept bound (operations ++ [.put value]) (history.step refusal (.put value)) := by
  have stopped : history.queue.stopped = true ↔ .stop ∈ operations ++ [.put value] :=
    stoppedSame kept nofun
  rw [step,putOffers]
  obtain ⟨_,same⟩ | ⟨running,room,same⟩ | ⟨_,_,same⟩ := offerCases value history.scene.world
  · rw [same]
    exact keptRejected kept value refusal
  · rw [same]
    obtain ⟨_,free,_⟩ := kept.sound.unmarked running
    refine ⟨soundAccepted kept.sound value running room,kept.bounded,?_,stopped,?_,?_,
      endedLater kept _⟩
    · simp only [accepted,yielded,Offer.told,queue,List.filterMap_append,updatesAppend]
      rw [← List.append_assoc]
      exact congrArg (· ++ [value]) kept.fifo
    · intro held
      exact absurd (free ▸ held) (Nat.lt_irrefl 0)
    · intro ended
      obtain ⟨_,stopped,_⟩ := kept.drained ended
      rw [queue,running] at stopped
      cases stopped
  · rw [same]
    exact keptRejected kept value .queueFull

theorem keptYielded {operation : Operation α} (kept : Kept bound operations history)
    (other : operation ≠ .stop) {value : α} {rest : List (Slot α)}
    (first : history.queue.slots = .update value :: rest)
    (sound : {history.queue with slots := rest}.Sound) :
    Kept bound (operations ++ [operation])
      ((history.moved {history.queue with slots := rest}).tell (.ok (some value))) := by
  have updates := updatesTaken first
  have untold : .ok none ∉ history.told := by
    intro ended
    rw [(kept.drained ended).1] at updates
    cases updates
  have ended := endedTell kept operation (.ok (some value)) fun ended => absurd ended untold
  have stopped := stoppedSame kept other
  refine ⟨sound,kept.bounded,?_,stopped,?_,?_,ended⟩
  · have fifo := kept.fifo
    rw [updates] at fifo
    simp only [yielded,tell,moved,List.filterMap_append] at fifo ⊢
    rw [List.append_assoc]
    exact fifo
  · intro held
    rw [(kept.holding held).2] at updates
    cases updates
  · intro ended
    obtain before | last := List.mem_append.mp ended
    · exact absurd before untold
    · cases List.mem_singleton.mp last

theorem keptNothing {operation : Operation α} (kept : Kept bound operations history)
    (other : operation ≠ .stop) (first : history.queue.slots = []) :
    Kept bound (operations ++ [operation]) (history.tell (.error .nothingArrived)) := by
  have stopped := stoppedSame kept other
  refine ⟨kept.sound,kept.bounded,?_,stopped,?_,?_,
    endedTell kept operation (.error .nothingArrived) fun ended => ?_⟩
  · have same : (history.tell (.error .nothingArrived)).yielded = history.yielded := by
      simp [yielded,tell,Except.toOption]
    rw [same]
    exact kept.fifo
  · intro held
    obtain ⟨took,none⟩ := kept.holding held
    exact ⟨List.mem_append_left _ took,none⟩
  · intro ended
    obtain before | last := List.mem_append.mp ended
    · exact kept.drained before
    · cases List.mem_singleton.mp last
  · obtain ⟨_,stopped,placed⟩ := kept.drained ended
    -- The one marker is neither in the queue nor on its way there, so it is held.
    have balance := kept.sound.balance
    have unmarked : history.queue.markers = 0 := by simp [markers,first]
    rw [unmarked,stopped,placed] at balance
    have held : 0 < history.queue.held := by
      simp only [Bool.toNat_false,Bool.toNat_true] at balance
      omega
    exact .inr ⟨rfl,List.mem_append_left _ (kept.holding held).1⟩

theorem keptEnded {operation : Operation α} (kept : Kept bound operations history)
    (other : operation ≠ .stop) {queue : UpdateQueue α} (sound : queue.Sound)
    (bounded : queue.bound = history.queue.bound) (updates : queue.updates = history.queue.updates)
    (still : queue.stopped = history.queue.stopped) (drained : queue.updates = [])
    (stopped : queue.stopped = true) (placed : queue.pending = false)
    (holding : 0 < queue.held → .take ∈ operations) :
    Kept bound (operations ++ [operation]) ((history.moved queue).tell (.ok none)) := by
  have stops := stoppedSame kept other
  rw [← still] at stops
  refine ⟨sound,bounded.trans kept.bounded,?_,stops,?_,?_,
    endedTell kept operation (.ok none) fun _ => .inl rfl⟩
  · have same : ((history.moved queue).tell (.ok none)).yielded = history.yielded := by
      simp [yielded,tell,moved,Except.toOption]
    rw [same,show ((history.moved queue).tell (.ok none)).queue.updates = _ from updates]
    exact kept.fifo
  · intro held
    exact ⟨List.mem_append_left _ (holding held),drained⟩
  · intro _
    exact ⟨drained,stopped,placed⟩

theorem keptGet (kept : Kept bound operations history) (refusal : Failure) :
    Kept bound (operations ++ [.get]) (history.step refusal .get) := by
  have other : (.get : Operation α) ≠ .stop := nofun
  have sound := soundGet kept.sound
  have done : history.step refusal .get =
      (history.moved history.queue.get.2).tell history.queue.get.1.told := by
    rw [step,nextTakes history.scene.journal history.scene.world]
    rfl
  rw [done]
  cases kept.sound.front with
  | update value rest first get take =>
    rw [get] at sound ⊢
    exact keptYielded kept other first sound
  | marker drained stopped placed get take =>
    rw [get]
    exact keptEnded kept other kept.sound rfl rfl rfl drained stopped placed fun held =>
      (kept.holding held).1
  | nothing first get take =>
    rw [get]
    exact keptNothing kept other first

theorem keptTake (kept : Kept bound operations history) (refusal : Failure) :
    Kept bound (operations ++ [.take]) (history.step refusal .take) := by
  have other : (.take : Operation α) ≠ .stop := nofun
  have same := stoppedSame kept other
  have sound := soundTake kept.sound
  cases kept.sound.front with
  | update value rest first get take =>
    rw [take] at sound
    rw [step,take]
    exact keptYielded kept other first sound
  | marker drained stopped placed get take =>
    rw [take] at sound
    rw [step,take]
    refine ⟨sound,kept.bounded,?_,same,fun _ => ?_,fun _ => ?_,endedLater kept _⟩
    · have fifo := kept.fifo
      rw [drained] at fifo
      exact fifo
    · exact ⟨List.mem_append_right _ (List.mem_singleton.mpr rfl),rfl⟩
    · exact ⟨rfl,stopped,placed⟩
  | nothing first get take =>
    rw [step,take]
    exact keptNothing kept other first

theorem keptPutBack (kept : Kept bound operations history) (refusal : Failure) :
    Kept bound (operations ++ [.putBack]) (history.step refusal .putBack) := by
  have other : (.putBack : Operation α) ≠ .stop := nofun
  have same := stoppedSame kept other
  have sound := soundPutBack kept.sound
  rw [step]
  split
  · rename_i able
    simp only [Bool.and_eq_true,decide_eq_true_eq] at able
    obtain ⟨took,none⟩ := kept.holding able.1
    -- A marker is held, so it is the only one: none is pending, and the queue was stopped.
    have balance := kept.sound.balance
    have single : history.queue.stopped.toNat ≤ 1 := Bool.toNat_le _
    have stopped : history.queue.stopped = true := by
      cases still : history.queue.stopped with
      | true => rfl
      | false =>
        rw [still,Bool.toNat_false] at balance
        omega
    have placed : history.queue.pending = false := by
      cases pending : history.queue.pending with
      | false => rfl
      | true =>
        rw [pending,Bool.toNat_true] at balance
        omega
    obtain ⟨_,_,back⟩ | back := putBackCases history.queue
    · rw [back] at sound ⊢
      exact keptEnded kept other sound rfl (updatesMarked _ _ _) rfl
        ((updatesMarked _ _ _).trans none) stopped placed fun _ => took
    · rw [back]
      exact keptEnded kept other kept.sound rfl rfl rfl none stopped placed fun _ => took
  · refine ⟨kept.sound,kept.bounded,kept.fifo,same,fun held => ?_,kept.drained,
      endedLater kept _⟩
    obtain ⟨took,none⟩ := kept.holding held
    exact ⟨List.mem_append_left _ took,none⟩

theorem keptStep (kept : Kept bound operations history) (refusal : Failure)
    (operation : Operation α) :
    Kept bound (operations ++ [operation]) (history.step refusal operation) := by
  cases operation with
  | put value => exact keptPut kept refusal value
  | stop => exact keptStop kept refusal
  | settle => exact keptSettle kept refusal
  | get => exact keptGet kept refusal
  | take => exact keptTake kept refusal
  | putBack => exact keptPutBack kept refusal

end Steps

theorem keptRun (bound : Int) (refusal : Failure) (journal : Journal)
    (operations : List (Operation α)) :
    Kept bound operations ((fresh bound journal).run refusal operations) := by
  induction operations using List.reverseRecOn with
  | nil => exact keptFresh bound journal
  | append_singleton before operation ih =>
    rw [run,List.foldl_append]
    exact keptStep ih refusal operation

/-- What producers and consumers of a queue rely on. `single`: one marker is placed, held or
pending from the first stop on. `returned`: a consumer that meets the marker leaves it behind. -/
structure Orderly (bound : Int) (refusal : Failure) (operations : List (Operation α))
    (history : History α) : Prop where
  fits : 0 < bound → (history.queue.slots.length : Int) ≤ bound
  fifo : history.accepted = history.yielded ++ history.queue.updates
  accepts : .stop ∉ operations → history.queue.hasRoom = true → ∀ value,
    ((put refusal value).perform history.scene).1 = .ok ()
  yields : ∀ value rest, history.queue.updates = value :: rest →
    (next.perform history.scene).1 = .ok (some value)
  refused : .stop ∈ operations → history.queue.stopped = true ∧ ∀ value,
    (put refusal value).perform history.scene = (.error refusal,history.scene)
  single : .stop ∈ operations →
    history.queue.markers + history.queue.held + history.queue.pending.toNat = 1
  unmarked : .stop ∉ operations →
    history.queue.markers + history.queue.held + history.queue.pending.toNat = 0
  behind : history.queue.slots =
    history.queue.updates.map .update ++ List.replicate history.queue.markers .marker
  room : 0 < history.queue.held → history.queue.hasRoom = true
  returned : history.queue.take.1 = .ended →
    history.queue.take.2.hasRoom = true ∧ history.queue.get = (.ended,history.queue)
  ended : history.told.Pairwise fun earlier later => earlier = .ok none →
    later = .ok none ∨ later = .error .nothingArrived ∧ .take ∈ operations

theorem roomHeld {queue : UpdateQueue α} (sound : queue.Sound) (held : 0 < queue.held) :
    queue.hasRoom = true := by
  simp only [hasRoom,Bool.or_eq_true,decide_eq_true_eq]
  by_cases bounded : 0 < queue.bound
  · have fits := sound.fits bounded
    omega
  · omega

theorem alwaysOrderly (bound : Int) (refusal : Failure) (journal : Journal)
    (operations : List (Operation α)) :
    Orderly bound refusal operations ((fresh bound journal).run refusal operations) := by
  have kept := keptRun bound refusal journal operations
  generalize (fresh bound journal).run refusal operations = history at kept
  have balance := kept.sound.balance
  have running : .stop ∉ operations → history.queue.stopped = false := fun unasked =>
    Bool.eq_false_iff.mpr fun stopped => unasked (kept.stopped.mp stopped)
  constructor
  case fits =>
    intro positive
    have fits := kept.sound.fits (kept.bounded ▸ positive)
    rw [kept.bounded] at fits
    omega
  case fifo => exact kept.fifo
  case accepts =>
    intro unasked room value
    have unstopped : history.scene.world.stopped = false := running unasked
    have room : history.scene.world.hasRoom = true := room
    rw [putOffers,offer,unstopped,room]
    rfl
  case yields =>
    intro value rest oldest
    rw [nextTakes history.scene.journal history.scene.world]
    cases kept.sound.front with
    | update first others stands get take =>
      rw [updatesTaken stands] at oldest
      obtain ⟨rfl,_⟩ := List.cons.inj oldest
      exact congrArg (·.1.told) get
    | marker drained stopped placed get take =>
      rw [drained] at oldest
      cases oldest
    | nothing empty get take =>
      simp [updates,empty] at oldest
  case refused =>
    intro asked
    have stopped := kept.stopped.mpr asked
    refine ⟨stopped,fun value => ?_⟩
    rw [putOffers,offer,if_pos (show history.scene.world.stopped = true from stopped)]
    rfl
  case single =>
    intro asked
    rw [balance,kept.stopped.mpr asked]
    rfl
  case unmarked =>
    intro unasked
    rw [balance,running unasked]
    rfl
  case behind => exact kept.sound.behind
  case room => exact roomHeld kept.sound
  case returned =>
    intro met
    have sound := soundTake kept.sound
    cases kept.sound.front with
    | update value rest first get take =>
      rw [take] at met
      cases met
    | marker drained stopped placed get take =>
      rw [take] at sound ⊢
      exact ⟨roomHeld sound Nat.one_pos,get⟩
    | nothing first get take =>
      rw [take] at met
      cases met
  case ended => exact kept.ended

/-- Consumers get what is left of a stopped queue, its marker is placed, or put back by the consumer
that holds it, and one more consumer asks. -/
def emptying (left : Nat) : List (Operation α) :=
  List.replicate left .get ++ [.settle,.putBack,.get]

section Emptying
variable {bound : Int} {operations : List (Operation α)} {history : History α}

theorem getUpdate (kept : Kept bound operations history) (refusal : Failure) {value : α}
    {rest : List α} (oldest : history.queue.updates = value :: rest) : ∃ queue : UpdateQueue α,
      history.step refusal .get = (history.moved queue).tell (.ok (some value)) ∧
        queue.updates = rest ∧ queue.stopped = history.queue.stopped ∧
          queue.held = history.queue.held := by
  cases kept.sound.front with
  | update first others stands get take =>
    rw [updatesTaken stands] at oldest
    obtain ⟨rfl,left⟩ := List.cons.inj oldest
    refine ⟨{history.queue with slots := others},?_,left,rfl,rfl⟩
    rw [step,nextTakes history.scene.journal history.scene.world,
      show history.scene.world.get = _ from get]
    rfl
  | marker drained stopped placed get take =>
    rw [drained] at oldest
    cases oldest
  | nothing empty get take => simp [updates,empty] at oldest

theorem emptyTold (kept : Kept bound operations history) (refusal : Failure)
    (stopped : history.queue.stopped = true) (drained : history.queue.updates = []) :
    (history.run refusal (emptying 0)).told =
      history.told ++ List.replicate (history.queue.held + 1) (.ok none) := by
  have place := kept.sound.markerAt stopped drained
  obtain ⟨⟨journal,⟨bound,slots,ended,pending,held⟩⟩,offered,told⟩ := history
  have room : bound ≤ 0 ∨ 0 < bound := by omega
  have marked : (⟨bound,[.marker],ended,false,0⟩ : UpdateQueue α).get =
      (.ended,⟨bound,[.marker],ended,false,0⟩) := by
    simp [get,take,putBack,hasRoom,room]
  have asked := nextTakes journal (⟨bound,[.marker],ended,false,0⟩ : UpdateQueue α)
  rw [marked] at asked
  simp only [queue] at place
  obtain ⟨rfl,rfl,rfl⟩ | ⟨rfl,rfl,rfl⟩ | ⟨rfl,rfl,rfl⟩ := place
  · have placed : (⟨bound,[],ended,true,0⟩ : UpdateQueue α).settle =
        ⟨bound,[.marker],ended,false,0⟩ := by
      simp [settle,hasRoom,room]
    simp [emptying,run,step,moved,queue,placed,asked,Taken.told]
  · have placed : (⟨bound,[.marker],ended,false,0⟩ : UpdateQueue α).settle =
        ⟨bound,[.marker],ended,false,0⟩ := by
      simp [settle]
    simp [emptying,run,step,moved,queue,placed,asked,Taken.told]
  · have back : (⟨bound,[],ended,false,1⟩ : UpdateQueue α).hasRoom = true := by
      simp [hasRoom,room]
    simp [emptying,run,step,moved,queue,settle,putBack,back,tell,asked,Taken.told,List.replicate]

theorem emptiedTold (kept : Kept bound operations history) (refusal : Failure)
    (stopped : history.queue.stopped = true) :
    (history.run refusal (emptying history.queue.updates.length)).told =
      history.told ++ history.queue.updates.map (fun value => .ok (some value)) ++
        List.replicate (history.queue.held + 1) (.ok none) := by
  generalize left : history.queue.updates = values
  induction values generalizing history operations with
  | nil => 
    rw [List.map_nil,List.append_nil]
    exact emptyTold kept refusal stopped left
  | cons value rest ih =>
    obtain ⟨queue,got,less,still,held⟩ := getUpdate kept refusal left
    have next := keptGet kept refusal
    rw [got] at next
    have ends := ih next (still.trans stopped) less
    rw [show emptying (value :: rest).length = .get :: emptying rest.length from rfl,run,
      List.foldl_cons,got]
    refine ends.trans ?_
    simp [tell,moved,History.queue,held]

end Emptying

end History
end BotGateway.UpdateQueue
