import BotGateway.Proofs.Action
import BotGateway.Updates.Queue

/-! The order and the room of a queue. Every operation keeps a sound queue sound: all updates stand
before the one marker, which exists from the first stop on and for which there is always room. -/
namespace BotGateway

namespace Slot
variable {α : Type}

def value? : Slot α → Option α
  | .update value => some value
  | .marker => none

def isMarker : Slot α → Bool
  | .update _ => false
  | .marker => true

end Slot

namespace UpdateQueue
variable {α : Type}

def updates (queue : UpdateQueue α) : List α := queue.slots.filterMap Slot.value?

def markers (queue : UpdateQueue α) : Nat := queue.slots.countP Slot.isMarker

/-- `behind`: no update stands behind a marker. `balance`: a marker is placed, held or pending once
the queue is stopped, and there is no other. `fits`: slots and held markers keep the bound. -/
structure Sound (queue : UpdateQueue α) : Prop where
  behind : queue.slots = queue.updates.map .update ++ List.replicate queue.markers .marker
  balance : queue.markers + queue.held + queue.pending.toNat = queue.stopped.toNat
  fits : 0 < queue.bound → (queue.slots.length + queue.held : Int) ≤ queue.bound

theorem roomBelow {queue : UpdateQueue α} (room : queue.hasRoom = true) (bounded : 0 < queue.bound) :
    (queue.slots.length : Int) < queue.bound := by
  simp only [hasRoom,Bool.or_eq_true,decide_eq_true_eq] at room
  omega

theorem soundEmpty (bound : Int) : (empty bound : UpdateQueue α).Sound :=
  ⟨rfl,rfl,fun positive => by simpa [empty] using Int.le_of_lt positive⟩

theorem offerCases (value : α) (queue : UpdateQueue α) :
    (queue.stopped = true ∧ queue.offer value = (.refused,queue)) ∨
    (queue.stopped = false ∧ queue.hasRoom = true ∧
      queue.offer value = (.accepted,{queue with slots := queue.slots ++ [Slot.update value]})) ∨
    (queue.stopped = false ∧ queue.hasRoom = false ∧ queue.offer value = (.full,queue)) := by
  unfold offer
  cases queue.stopped with
  | true => exact .inl ⟨rfl,rfl⟩
  | false =>
    cases queue.hasRoom with
    | true => exact .inr (.inl ⟨rfl,rfl,rfl⟩)
    | false => exact .inr (.inr ⟨rfl,rfl,rfl⟩)

theorem Sound.unmarked {queue : UpdateQueue α} (sound : queue.Sound) (running : queue.stopped = false) :
    queue.markers = 0 ∧ queue.held = 0 ∧ queue.pending = false := by
  have balance := sound.balance
  simp only [running,Bool.toNat_false] at balance
  refine ⟨by omega,by omega,?_⟩
  cases h : queue.pending with
  | false => rfl
  | true => simp [h] at balance

theorem updatesAppend (queue : UpdateQueue α) (value : α) :
    {queue with slots := queue.slots ++ [Slot.update value]}.updates = queue.updates ++ [value] := by
  simp [updates,Slot.value?]

theorem soundAccepted {queue : UpdateQueue α} (sound : queue.Sound) (value : α)
    (running : queue.stopped = false) (room : queue.hasRoom = true) :
    {queue with slots := queue.slots ++ [Slot.update value]}.Sound := by
  obtain ⟨none,free,idle⟩ := sound.unmarked running
  have markers : {queue with slots := queue.slots ++ [Slot.update value]}.markers = 0 := by
    simpa [UpdateQueue.markers,Slot.isMarker] using none
  refine ⟨?_,?_,?_⟩
  · have behind := sound.behind
    simp only [none,List.replicate_zero,List.append_nil] at behind
    rw [updatesAppend,markers]
    simpa using behind
  · rw [markers]
    simp [free,idle,running]
  · intro bounded
    have below := roomBelow room bounded
    simp only [List.length_append,List.length_singleton,free]
    omega

theorem stopKeeps (queue : UpdateQueue α) : queue.stop.slots = queue.slots ∧
    queue.stop.bound = queue.bound ∧ queue.stop.held = queue.held ∧ queue.stop.stopped = true := by
  unfold stop
  cases h : queue.stopped <;> simp [h]

theorem soundStop {queue : UpdateQueue α} (sound : queue.Sound) : queue.stop.Sound := by
  unfold stop
  cases running : queue.stopped with
  | true => exact sound
  | false =>
    obtain ⟨none,free,_⟩ := sound.unmarked running
    refine ⟨sound.behind,?_,sound.fits⟩
    show queue.markers + queue.held + 1 = 1
    omega

theorem settleCases (queue : UpdateQueue α) :
    (queue.pending = true ∧ queue.hasRoom = true ∧
      queue.settle = {queue with slots := queue.slots ++ [Slot.marker],pending := false}) ∨
    queue.settle = queue := by
  unfold settle
  cases queue.pending <;> cases queue.hasRoom <;> simp

theorem updatesMarked (queue : UpdateQueue α) (held : Nat) (pending : Bool) :
    {queue with slots := queue.slots ++ [Slot.marker],held := held,pending := pending}.updates =
      queue.updates := by
  simp [updates,Slot.value?]

theorem soundMarked {queue : UpdateQueue α} (sound : queue.Sound) {held : Nat} {pending : Bool}
    (balance : queue.markers + 1 + held + pending.toNat = queue.stopped.toNat)
    (fits : 0 < queue.bound → (queue.slots.length + 1 + held : Int) ≤ queue.bound) :
    {queue with slots := queue.slots ++ [Slot.marker],held := held,pending := pending}.Sound := by
  have markers : {queue with
      slots := queue.slots ++ [Slot.marker],held := held,pending := pending}.markers =
      queue.markers + 1 := by
    simp [UpdateQueue.markers,Slot.isMarker]
  refine ⟨?_,?_,?_⟩
  · rw [updatesMarked,markers,List.replicate_succ',← List.append_assoc,← sound.behind]
  · rw [markers]
    exact balance
  · intro bounded
    have := fits bounded
    simp only [List.length_append,List.length_singleton]
    omega

theorem soundSettle {queue : UpdateQueue α} (sound : queue.Sound) : queue.settle.Sound := by
  obtain ⟨pending,room,h⟩ | h := settleCases queue
  · rw [h]
    have balance := sound.balance
    have single : queue.stopped.toNat ≤ 1 := Bool.toNat_le _
    simp only [pending,Bool.toNat_true] at balance
    refine soundMarked sound ?_ fun bounded => ?_
    · simp only [Bool.toNat_false]
      omega
    · have := roomBelow room bounded
      omega
  · rw [h]
    exact sound

theorem updatesSettle (queue : UpdateQueue α) : queue.settle.updates = queue.updates := by
  obtain ⟨_,_,h⟩ | h := settleCases queue <;> rw [h]
  exact updatesMarked queue _ _

theorem Sound.ended {queue : UpdateQueue α} (sound : queue.Sound) {rest}
    (first : queue.slots = .marker :: rest) : rest = [] ∧ queue.updates = [] ∧
      queue.markers = 1 ∧ queue.held = 0 ∧ queue.pending = false ∧ queue.stopped = true := by
  have balance := sound.balance
  have behind := sound.behind
  have single : queue.stopped.toNat ≤ 1 := Bool.toNat_le _
  have none : queue.updates = [] := by
    cases h : queue.updates with
    | nil => rfl
    | cons value more => simp [h,first] at behind
  have some : queue.markers = 1 := by
    have : queue.markers ≠ 0 := by simp [markers,first,Slot.isMarker]
    omega
  rw [first,none,some] at behind
  refine ⟨by simpa using behind,none,some,by omega,?_,?_⟩
  · cases h : queue.pending with
    | false => rfl
    | true => simp only [h,Bool.toNat_true] at balance; omega
  · cases h : queue.stopped with
    | false => simp only [h,Bool.toNat_false] at balance; omega
    | true => rfl

theorem soundTake {queue : UpdateQueue α} (sound : queue.Sound) : queue.take.2.Sound := by
  unfold take
  split
  · exact sound
  · rename_i value rest first
    have behind := sound.behind
    simp only [updates,markers,first,List.filterMap_cons,Slot.value?,List.countP_cons,
      Slot.isMarker,List.map_cons,List.cons_append,List.cons.injEq,true_and] at behind
    refine ⟨by simpa [updates,markers] using behind,?_,?_⟩
    · simpa [markers,first,Slot.isMarker] using sound.balance
    · intro bounded
      have := sound.fits bounded
      simp only [first,List.length_cons] at this
      simp only
      omega
  · rename_i rest first
    obtain ⟨rfl,none,one,free,idle,ended⟩ := sound.ended first
    refine ⟨rfl,by simp [markers,free,idle,ended],?_⟩
    intro bounded
    have bounded : 0 < queue.bound := bounded
    simp only [List.length_nil,free]
    omega

theorem putBackCases (queue : UpdateQueue α) :
    (0 < queue.held ∧ queue.hasRoom = true ∧
      queue.putBack = {queue with slots := queue.slots ++ [Slot.marker],held := queue.held - 1}) ∨
    queue.putBack = queue := by
  unfold putBack
  by_cases held : 0 < queue.held <;> cases h : queue.hasRoom <;> simp [held]

theorem soundPutBack {queue : UpdateQueue α} (sound : queue.Sound) : queue.putBack.Sound := by
  obtain ⟨held,room,h⟩ | h := putBackCases queue
  · rw [h]
    have balance := sound.balance
    refine soundMarked sound ?_ fun bounded => ?_
    · omega
    · have := sound.fits bounded
      omega
  · rw [h]
    exact sound

theorem Sound.getCases {queue : UpdateQueue α} (sound : queue.Sound) :
    (∃ value rest, queue.slots = .update value :: rest ∧
      queue.get = (.update value,{queue with slots := rest})) ∨
    (queue.updates = [] ∧ queue.stopped = true ∧ queue.get = (.ended,queue)) ∨
    (queue.updates = [] ∧ queue.get = (.nothing,queue)) := by
  match first : queue.slots with
  | [] => exact .inr (.inr ⟨by simp [updates,first],by simp [get,take,first]⟩)
  | .update value :: rest => exact .inl ⟨value,rest,rfl,by simp [get,take,first]⟩
  | .marker :: rest =>
    obtain ⟨rfl,none,_,free,_,ended⟩ := sound.ended first
    refine .inr (.inl ⟨none,ended,?_⟩)
    have room : {queue with slots := ([] : List (Slot α)),held := 1}.hasRoom = true := by
      simp only [hasRoom,List.length_nil,Bool.or_eq_true,decide_eq_true_eq]
      omega
    have same : {queue with slots := [Slot.marker],held := 0} = queue := by
      rw [← first,← free]
    simp [get,take,first,free,putBack,room,same]

theorem soundGet {queue : UpdateQueue α} (sound : queue.Sound) : queue.get.2.Sound := by
  have taken := soundTake sound
  obtain ⟨value,rest,first,h⟩ | ⟨_,_,h⟩ | ⟨_,h⟩ := sound.getCases
  · rw [h]
    simpa [take,first] using taken
  · rw [h]
    exact sound
  · rw [h]
    exact sound

theorem updatesTaken {queue : UpdateQueue α} {value rest} (first : queue.slots = .update value :: rest) :
    queue.updates = value :: {queue with slots := rest}.updates := by
  simp [updates,first,Slot.value?]

def Taken.told : Taken α → Except Failure (Option α)
  | .nothing => .error .nothingArrived
  | .update value => .ok (some value)
  | .ended => .ok none

theorem nextTakes (journal : Journal) (queue : UpdateQueue α) :
    (next : Action (UpdateQueue α) (Option α)).perform ⟨journal,queue⟩ =
      (queue.get.1.told,⟨journal,queue.get.2⟩) := by
  simp only [next,Action.perform_bind,Action.perform_current,Action.perform_change]
  cases queue.get.1 <;> rfl

end UpdateQueue
end BotGateway
