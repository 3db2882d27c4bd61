import BotGateway.Proofs.Updates.Trail

/-! The offset that a poller leaves behind. It lies just above the last update accepted unless the
queue refused an update; then it lies above that one, which a later poller does not get again.
Nothing else below the offset is lost. -/
namespace BotGateway.LongPolling
variable {site : Type}

def Move.refused? : Move → Option Value
  | .refuses update => some update
  | _ => none

def refused (moves : List Move) : List Value := moves.filterMap Move.refused?

def Stands (due : Int) (poller : Poller) : List Value → Prop
  | [] => poller.phase = .over → poller.offset = due
  | update :: others =>
    others = [] ∧ poller.phase = .over ∧ due ≤ identifier update ∧
      poller.offset = identifier update + 1

structure Standing (first : Int) (moves : List Move) (poller : Poller) : Prop where
  kept : Kept first moves poller
  stands : Stands (due first moves) poller (refused moves)

section Steps
variable {polling : LongPolling} {scene : Scene (Station site)} {offset first : Int}
  {phase : Phase} {moves : List Move} {move : Move} {poller : Poller} {station : Station site}

theorem refusedOnly (standing : Standing first moves poller) (going : poller.phase ≠ .over) :
    refused moves = [] := by
  have stands := standing.stands
  cases taken : refused moves with
  | nil => rfl
  | cons update others =>
    rw [taken] at stands
    exact absurd stands.2.1 going

theorem refusedOn (move : Move) : refused (moves ++ [move]) = refused moves ++ move.refused?.toList := by
  cases taken : move.refused? <;> simp [refused,taken]

theorem standsSilent (standing : Standing first moves ⟨offset,phase⟩) (going : phase ≠ .over)
    (silent : move.accepted? = none) (calm : move.refused? = none)
    (same : poller.phase = .over → poller.offset = due first moves) :
    Stands (due first (moves ++ [move])) poller (refused (moves ++ [move])) := by
  have none : refused (moves ++ [move]) = [] := by
    rw [refusedOn,refusedOnly standing going,calm]
    rfl
  rw [none,due,acceptedSilent silent]
  exact same

theorem standingTurn (standing : Standing first moves ⟨offset,phase⟩)
    (turn : Turn polling scene offset phase move poller station) :
    Standing first (moves ++ [move]) poller := by
  refine ⟨keptTurn standing.kept turn,?_⟩
  have ready := standing.kept.ready
  cases turn with
  | stops => exact standsSilent standing nofun rfl rfl fun _ => ready
  | goes => exact standsSilent standing nofun rfl rfl nofun
  | answered => exact standsSilent standing nofun rfl rfl nofun
  | failed => exact standsSilent standing nofun rfl rfl fun _ => ready
  | turns => exact standsSilent standing nofun rfl rfl fun _ => ready
  | skips => exact standsSilent standing nofun rfl rfl nofun
  | picks => exact standsSilent standing nofun rfl rfl nofun
  | waits => exact standsSilent standing nofun rfl rfl nofun
  | accepts =>
    rw [refusedOn,refusedOnly standing nofun]
    nofun
  | @refuses update =>
    have same : due first (moves ++ [.refuses update]) = due first moves := by
      rw [due,due,acceptedSilent rfl]
    rw [refusedOn,refusedOnly standing nofun,same]
    obtain ⟨new,above⟩ : due first moves ≤ identifier update ∧ offset = identifier update + 1 := ready
    exact ⟨rfl,rfl,new,above⟩
  | rests =>
    have same : due first (moves ++ [.rests]) = due first moves := by
      rw [due,due,acceptedSilent rfl]
    have stands := standing.stands
    rw [refusedOn,same]
    rw [← List.append_nil (refused moves)] at stands
    exact stands

theorem standingCourse {start last : Moment site} {past : List Move}
    (standing : Standing first past start.poller) (course : Course polling start moves last) :
    Standing first (past ++ moves) last.poller := by
  induction course generalizing past with
  | here moment =>
    rw [List.append_nil]
    exact standing
  | on steps scene rest ih =>
    have next := ih (standingTurn standing (stepped polling steps))
    rw [List.append_assoc] at next
    exact next

end Steps

section Batches
variable {polling : LongPolling} {scene : Scene (Station site)} {first last : Moment site}
  {moves : List Move} {move : Move} {offset : Int} {phase : Phase} {after : Poller}
  {station : Station site}

theorem freshAbove {batch : List Value} {offset : Int} :
    ∀ update ∈ fresh offset batch, offset ≤ identifier update := by
  induction batch generalizing offset with
  | nil => nofun
  | cons next rest ih =>
    intro update member
    by_cases below : identifier next < offset
    · rw [fresh,if_pos below] at member
      exact ih update member
    · rw [fresh,if_neg below] at member
      obtain rfl | inside := List.mem_cons.mp member
      · exact Int.not_lt.mp below
      · have above := ih update inside
        omega

theorem turnRests (turn : Turn polling scene offset .over move after station) :
    after = ⟨offset,.over⟩ := by
  cases turn with
  | rests => rfl

theorem restsOffset (course : Course polling first moves last) (idle : first.poller.phase = .over) :
    last.poller.offset = first.poller.offset := by
  induction course with
  | here => rfl
  | on steps scene rest ih =>
    have turn := stepped polling steps
    rw [idle] at turn
    have same := turnRests turn
    rw [same] at ih
    exact ih rfl

def Covered (bound : Int) (poller : Poller) (moves : List Move) : Prop :=
  ∀ update ∈ left poller, identifier update < bound → update ∈ accepted moves ++ refused moves

theorem amongLater {update : Value} (among : update ∈ accepted moves ++ refused moves) :
    update ∈ accepted (move :: moves) ++ refused (move :: moves) := by
  simp only [accepted,refused,List.mem_append,List.mem_filterMap] at among ⊢
  obtain ⟨other,member,is⟩ | ⟨other,member,is⟩ := among
  · exact .inl ⟨other,List.mem_cons_of_mem _ member,is⟩
  · exact .inr ⟨other,List.mem_cons_of_mem _ member,is⟩

theorem coveredTurn {bound : Int} (turn : Turn polling scene offset phase move after station)
    (within : InBatch ⟨offset,phase⟩) (rest : InBatch after → Covered bound after moves)
    (idle : after.phase = .over → bound = after.offset) : Covered bound ⟨offset,phase⟩ (move :: moves) := by
  intro update member below
  cases turn with
  | stops | goes | answered | failed | rests => obtain ⟨_,same⟩ | ⟨_,_,same⟩ := within <;> cases same
  | turns => cases member
  | @skips next batch skipped =>
    have member : update ∈ fresh offset (next :: batch) := member
    rw [fresh,if_pos skipped] at member
    exact amongLater (rest (.inl ⟨_,rfl⟩) update member below)
  | @picks next batch new =>
    have member : update ∈ fresh offset (next :: batch) := member
    rw [fresh,if_neg (Int.not_lt.mpr new)] at member
    exact amongLater (rest (.inr ⟨_,_,rfl⟩) update member below)
  | waits => exact amongLater (rest (.inr ⟨_,_,rfl⟩) update member below)
  | accepts =>
    obtain rfl | inside := List.mem_cons.mp member
    · exact List.mem_append_left _ List.mem_cons_self
    · exact amongLater (rest (.inl ⟨_,rfl⟩) update inside below)
  | refuses =>
    obtain rfl | inside := List.mem_cons.mp member
    · exact List.mem_append_right _ List.mem_cons_self
    · -- What follows the refused update in its batch lies at or above the offset.
      have above : offset ≤ identifier update := freshAbove update inside
      have here : bound = offset := idle rfl
      omega

theorem coveredCourse (course : Course polling first moves last) (within : InBatch first.poller)
    (ended : last.poller.phase = .over) : Covered last.poller.offset first.poller moves := by
  induction course with
  | here =>
    obtain ⟨_,same⟩ | ⟨_,_,same⟩ := within <;> cases same.symm.trans ended
  | on steps scene rest ih =>
    exact coveredTurn (stepped polling steps) within (fun inside => ih inside ended) (restsOffset rest)

end Batches

structure Leaves (first : Int) (moves : List Move) (poller : Poller) : Prop where
  exactly : poller.offset = due first moves ↔ refused moves = []
  passed : ∀ update ∈ refused moves, refused moves = [update] ∧ update ∉ accepted moves ∧
    due first moves ≤ identifier update ∧ poller.offset = identifier update + 1
  covered : ∀ before asked batch after, moves = before ++ .asks asked (.ok batch) :: after →
    (batch.Pairwise fun earlier later => identifier earlier ≤ identifier later) →
      ∀ update ∈ batch, asked ≤ identifier update → identifier update < poller.offset →
        ∃ other ∈ accepted moves ++ refused moves, identifier other = identifier update
  noted : ∀ {site : Type} (scene : Scene (Station site)), (finish poller).perform scene =
    (.ok poller,⟨scene.journal.write ⟨.info,"Long polling stopped",[("offset",.int poller.offset)]⟩,
      {scene.world with queue := scene.world.queue.stop}⟩)

section Leaving
variable {polling : LongPolling} {first last : Moment site} {moves : List Move} {offset : Int}

theorem batchCovered {before after : List Move} {asked : Int} {batch : List Value}
    (course : Course polling first (before ++ .asks asked (.ok batch) :: after) last)
    (ended : last.poller.phase = .over) :
    ∀ update ∈ fresh asked batch, identifier update < last.poller.offset →
      update ∈ accepted after ++ refused after := by
  obtain ⟨_,⟨_,late⟩⟩ := course.atCall
  exact coveredCourse late (.inl ⟨batch,rfl⟩) ended

theorem courseLeaves (course : Course polling first moves last)
    (start : first.poller = ⟨offset,.checking⟩) (ended : last.poller.phase = .over) :
    Leaves offset moves last.poller := by
  have begun : Standing offset [] first.poller := by
    rw [start]
    exact ⟨keptStart offset,nofun⟩
  have standing := standingCourse begun course
  rw [List.nil_append] at standing
  have stands := standing.stands
  constructor
  case exactly =>
    cases taken : refused moves with
    | nil =>
      rw [taken] at stands
      exact iff_of_true (stands ended) rfl
    | cons update others =>
      rw [taken] at stands
      obtain ⟨_,_,new,above⟩ := stands
      exact iff_of_false (by omega) nofun
  case passed =>
    intro update member
    cases taken : refused moves with
    | nil =>
      rw [taken] at member
      cases member
    | cons other others =>
      rw [taken] at stands member
      obtain ⟨rfl,_,new,above⟩ := stands
      obtain rfl := List.mem_singleton.mp member
      refine ⟨rfl,fun among => ?_,new,above⟩
      have below := (standing.kept.within update among).2
      omega
  case covered =>
    intro before asked batch after same sorted update member new below
    obtain ⟨other,among,alike⟩ := freshRepeated sorted member new
    have part := batchCovered (same ▸ course) ended other among (alike ▸ below)
    refine ⟨other,?_,alike⟩
    rw [same]
    simp only [accepted,refused,List.filterMap_append,List.mem_append,List.mem_filterMap] at part ⊢
    obtain ⟨move,inside,is⟩ | ⟨move,inside,is⟩ := part
    · exact .inl (.inr ⟨move,List.mem_cons_of_mem _ inside,is⟩)
    · exact .inr (.inr ⟨move,List.mem_cons_of_mem _ inside,is⟩)
  case noted =>
    intro site scene
    rfl

end Leaving

def Phase.isOver : Phase → Bool
  | .over => true
  | _ => false

theorem phaseOver {phase : Phase} (ends : phase.isOver = true) : phase = .over := by
  cases phase with
  | «over» => rfl
  | _ => cases ends

theorem letterEnds : (alone letterPolling 8 letterStart).2.poller.phase = .over :=
  phaseOver (by decide +kernel)

theorem letterLeaves : letterStart.poller = ⟨5,.checking⟩ ∧
    (alone letterPolling 8 letterStart).2.poller.phase = .over ∧
    (alone letterPolling 8 letterStart).2.poller.offset = 8 ∧
    Leaves 5 (alone letterPolling 8 letterStart).1 (alone letterPolling 8 letterStart).2.poller :=
  ⟨rfl,letterEnds,by decide +kernel,
    courseLeaves (aloneCourse letterPolling 8 letterStart) rfl letterEnds⟩

def stoppedLetter : Moment Unit :=
  ⟨⟨5,.asking⟩,⟨.empty,{letterStart.scene.world with queue := (UpdateQueue.empty 1).stop}⟩⟩

theorem stoppedLeavesBehind : ¬ ∀ moves last, Course letterPolling letterStart moves last →
    last.poller.phase = .over → last.poller.offset = due 5 moves := by
  intro claim
  have course : Course letterPolling letterStart (.checks :: (alone letterPolling 4 stoppedLetter).1)
      (alone letterPolling 4 stoppedLetter).2 :=
    .on rfl stoppedLetter.scene (aloneCourse letterPolling 4 stoppedLetter)
  have ended : (alone letterPolling 4 stoppedLetter).2.poller.phase = .over :=
    phaseOver (by decide +kernel)
  have same := claim _ _ course ended
  have offset : (alone letterPolling 4 stoppedLetter).2.poller.offset = 8 := by decide +kernel
  have none : due 5 (.checks :: (alone letterPolling 4 stoppedLetter).1) = 5 := by decide +kernel
  omega

end BotGateway.LongPolling
