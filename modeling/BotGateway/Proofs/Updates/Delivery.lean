import BotGateway.Proofs.Updates.Polling

/-! What a poller delivers along any course. The updates it puts in the queue rise strictly from the
first offset on, each request asks from just above the last of them, and nothing of a batch that is
in order is left out. -/
namespace BotGateway.LongPolling
variable {site : Type}

def Move.accepted? : Move → Option Value
  | .accepts update => some update
  | _ => none

def accepted (moves : List Move) : List Value := moves.filterMap Move.accepted?

def due (offset : Int) (moves : List Move) : Int :=
  match (accepted moves).getLast? with
  | none => offset
  | some update => identifier update + 1

def Ready (due : Int) (poller : Poller) : Prop :=
  match poller.phase with
  | .offering update _ => due ≤ identifier update ∧ poller.offset = identifier update + 1
  | .over => True
  | _ => poller.offset = due

structure Kept (offset : Int) (moves : List Move) (poller : Poller) : Prop where
  rising : (accepted moves).Pairwise fun earlier later => identifier earlier < identifier later
  within : ∀ update ∈ accepted moves,
    offset ≤ identifier update ∧ identifier update < due offset moves
  least : offset ≤ due offset moves
  ready : Ready (due offset moves) poller

section Steps
variable {polling : LongPolling} {scene : Scene (Station site)} {offset first : Int}
  {phase : Phase} {moves : List Move} {move : Move} {poller : Poller} {station : Station site}

theorem acceptedSilent (silent : move.accepted? = none) : accepted (moves ++ [move]) = accepted moves := by
  simp [accepted,silent]

theorem keptSilent {before : Poller} (kept : Kept first moves before)
    (silent : move.accepted? = none) (ready : Ready (due first moves) poller) :
    Kept first (moves ++ [move]) poller := by
  have same : due first (moves ++ [move]) = due first moves := by
    rw [due,due,acceptedSilent silent]
  refine ⟨?_,?_,?_,?_⟩
  · rw [acceptedSilent silent]
    exact kept.rising
  · rw [acceptedSilent silent,same]
    exact kept.within
  · rw [same]
    exact kept.least
  · rw [same]
    exact ready

theorem keptAccepts {update : Value} {batch : List Value}
    (kept : Kept first moves ⟨offset,.offering update batch⟩) :
    Kept first (moves ++ [.accepts update]) ⟨offset,.delivering batch⟩ := by
  obtain ⟨new,above⟩ : due first moves ≤ identifier update ∧ offset = identifier update + 1 :=
    kept.ready
  have grown : accepted (moves ++ [.accepts update]) = accepted moves ++ [update] := by
    simp [accepted,Move.accepted?]
  have next : due first (moves ++ [.accepts update]) = identifier update + 1 := by
    rw [due,grown,List.getLast?_concat]
  have least := kept.least
  constructor
  · rw [grown,List.pairwise_append]
    refine ⟨kept.rising,List.pairwise_singleton _ _,fun earlier member later last => ?_⟩
    rw [List.mem_singleton.mp last]
    exact Int.lt_of_lt_of_le (kept.within earlier member).2 new
  · rw [grown,next]
    intro other member
    obtain before | last := List.mem_append.mp member
    · have bounds := kept.within other before
      omega
    · rw [List.mem_singleton.mp last]
      omega
  · rw [next]
    omega
  · rw [next]
    exact above

theorem readyBetween {due : Int} (ready : offset = due) (next : phase = .checking ∨ phase = .over) :
    Ready due ⟨offset,phase⟩ := by
  obtain rfl | rfl := next
  · exact ready
  · trivial

theorem keptTurn (kept : Kept first moves ⟨offset,phase⟩)
    (turn : Turn polling scene offset phase move poller station) :
    Kept first (moves ++ [move]) poller := by
  have ready := kept.ready
  cases turn with
  | stops => exact keptSilent kept rfl trivial
  | goes => exact keptSilent kept rfl ready
  | answered => exact keptSilent kept rfl ready
  | failed => exact keptSilent kept rfl (readyBetween ready (afterwardEither _ _))
  | turns => exact keptSilent kept rfl (readyBetween ready (pauseEither _))
  | skips => exact keptSilent kept rfl ready
  | picks new =>
    have here : offset = due first moves := ready
    exact keptSilent kept rfl ⟨here ▸ new,rfl⟩
  | accepts => exact keptAccepts kept
  | waits => exact keptSilent kept rfl ready
  | refuses => exact keptSilent kept rfl trivial
  | rests => exact keptSilent kept rfl trivial

theorem keptCourse {start last : Moment site} {past : List Move}
    (kept : Kept first past start.poller) (course : Course polling start moves last) :
    Kept first (past ++ moves) last.poller := by
  induction course generalizing past with
  | here moment =>
    rw [List.append_nil]
    exact kept
  | on steps scene rest ih =>
    have next := ih (keptTurn kept (stepped polling steps))
    rw [List.append_assoc] at next
    exact next

end Steps

def fresh (offset : Int) : List Value → List Value
  | [] => []
  | update :: batch =>
    if identifier update < offset then fresh offset batch
    else update :: fresh (identifier update + 1) batch

section Batches
variable {batch : List Value} {offset : Int}

theorem freshAscending
    (ascending : batch.Pairwise fun earlier later => identifier earlier < identifier later) :
    fresh offset batch = batch.filter fun update => offset ≤ identifier update := by
  induction batch generalizing offset with
  | nil => rfl
  | cons update rest ih =>
    obtain ⟨above,tail⟩ := List.pairwise_cons.mp ascending
    by_cases below : identifier update < offset
    · rw [fresh,if_pos below,ih tail,List.filter_cons_of_neg (by simpa using below)]
    · have new := Int.not_lt.mp below
      rw [fresh,if_neg below,ih tail,List.filter_cons_of_pos (by simpa using new)]
      -- All that follow lie above this one, so the higher offset drops none of them.
      congr 1
      refine List.filter_congr fun other member => ?_
      have later := above other member
      simp only [decide_eq_decide]
      omega

theorem freshRepeated
    (sorted : batch.Pairwise fun earlier later => identifier earlier ≤ identifier later)
    {update : Value} (member : update ∈ batch) (new : offset ≤ identifier update) :
    ∃ other ∈ fresh offset batch, identifier other = identifier update := by
  induction batch generalizing offset with
  | nil => cases member
  | cons first rest ih =>
    obtain ⟨above,tail⟩ := List.pairwise_cons.mp sorted
    by_cases below : identifier first < offset
    · rw [fresh,if_pos below]
      obtain rfl | inside := List.mem_cons.mp member
      · omega
      · exact ih tail inside new
    · rw [fresh,if_neg below]
      obtain rfl | inside := List.mem_cons.mp member
      · exact ⟨update,List.mem_cons_self,rfl⟩
      · by_cases same : identifier first = identifier update
        · exact ⟨first,List.mem_cons_self,same⟩
        · have later : identifier first + 1 ≤ identifier update := by
            have := above update inside
            omega
          obtain ⟨other,found,alike⟩ := ih tail inside later
          exact ⟨other,List.mem_cons_of_mem _ found,alike⟩

end Batches

def Move.isTurn : Move → Bool
  | .turns => true
  | _ => false

def Move.isWait : Move → Bool
  | .waits _ => true
  | _ => false

def untilTurn (moves : List Move) : List Move := moves.takeWhile fun move => !move.isTurn

def waiting (moves : List Move) : Nat := moves.countP Move.isWait

def InBatch (poller : Poller) : Prop :=
  (∃ batch, poller.phase = .delivering batch) ∨ ∃ update batch, poller.phase = .offering update batch

def left (poller : Poller) : List Value :=
  match poller.phase with
  | .delivering batch => fresh poller.offset batch
  | .offering update batch => update :: fresh poller.offset batch
  | _ => []

def work (poller : Poller) : Nat :=
  match poller.phase with
  | .delivering batch => 2 * batch.length + 1
  | .offering _ batch => 2 * batch.length + 2
  | _ => 0

structure WorksOff (poller : Poller) (moves : List Move) : Prop where
  part : accepted (untilTurn moves) <+: left poller
  whole : .turns ∈ moves → accepted (untilTurn moves) = left poller
  ends : (∀ update, .refuses update ∉ moves) → work poller + waiting moves ≤ moves.length →
    .turns ∈ moves

section Working
variable {polling : LongPolling} {scene : Scene (Station site)} {first last : Moment site}
  {moves : List Move} {move : Move} {offset : Int} {phase : Phase} {before after : Poller}
  {station : Station site}

theorem turnOver (turn : Turn polling scene offset .over move after station) :
    move = .rests ∧ after.phase = .over := by
  cases turn with
  | rests => exact ⟨rfl,rfl⟩

theorem restsOver (course : Course polling first moves last) (idle : first.poller.phase = .over) :
    ∀ move ∈ moves, move = .rests := by
  induction course with
  | here => nofun
  | on steps scene rest ih =>
    have turn := stepped polling steps
    rw [idle] at turn
    obtain ⟨here,still⟩ := turnOver turn
    intro other member
    obtain rfl | inside := List.mem_cons.mp member
    · exact here
    · exact ih still other inside

theorem acceptedOn (moves : List Move) (inside : move.isTurn = false) :
    accepted (untilTurn (move :: moves)) = move.accepted?.toList ++ accepted (untilTurn moves) := by
  cases taken : move.accepted? <;> simp [untilTurn,inside,accepted,taken]

theorem worksOn (inside : move.isTurn = false) (same : left before = move.accepted?.toList ++ left after)
    (less : work after + 1 ≤ work before + move.isWait.toNat) (rest : WorksOff after moves) :
    WorksOff before (move :: moves) := by
  have gained := acceptedOn moves inside
  have other : move ≠ .turns := fun turns => by simp [turns,Move.isTurn] at inside
  constructor
  · rw [gained,same]
    exact List.prefix_append_right_inj _ |>.mpr rest.part
  · intro turned
    rw [gained,same,rest.whole ((List.mem_cons.mp turned).resolve_left other.symm)]
  · intro taken enough
    have waits : waiting (move :: moves) = waiting moves + move.isWait.toNat := by
      rw [waiting,List.countP_cons]
      cases move.isWait <;> rfl
    rw [waits,List.length_cons] at enough
    apply List.mem_cons_of_mem
    exact rest.ends (fun update member => taken update (List.mem_cons_of_mem _ member)) (by omega)

theorem worksTurn (turn : Turn polling scene offset phase move after station)
    (within : InBatch ⟨offset,phase⟩) (rest : InBatch after → WorksOff after moves)
    (idle : after.phase = .over → ∀ move ∈ moves, move = .rests) :
    WorksOff ⟨offset,phase⟩ (move :: moves) := by
  cases turn with
  | stops | goes | answered | failed | rests => obtain ⟨_,same⟩ | ⟨_,_,same⟩ := within <;> cases same
  | turns => exact ⟨List.prefix_rfl,fun _ => rfl,fun _ _ => List.mem_cons_self⟩
  | skips below =>
    refine worksOn rfl ?_ ?_ (rest (.inl ⟨_,rfl⟩))
    · simp [left,fresh,below,Move.accepted?]
    · simp only [work,Move.isWait,Bool.toNat_false,List.length_cons]
      omega
  | picks new =>
    refine worksOn rfl ?_ ?_ (rest (.inr ⟨_,_,rfl⟩))
    · simp [left,fresh,Int.not_lt.mpr new,Move.accepted?]
    · simp only [work,Move.isWait,Bool.toNat_false,List.length_cons]
      omega
  | accepts =>
    refine worksOn rfl ?_ ?_ (rest (.inl ⟨_,rfl⟩))
    · simp [left,Move.accepted?]
    · simp only [work,Move.isWait,Bool.toNat_false]
      omega
  | waits =>
    refine worksOn rfl ?_ ?_ (rest (.inr ⟨_,_,rfl⟩))
    · simp [left,Move.accepted?]
    · simp only [work,Move.isWait,Bool.toNat_true]
      omega
  | refuses =>
    -- The poller is over, and a poller that is over turns to no other batch.
    have resting := idle rfl
    constructor
    · have nothing : accepted (untilTurn moves) = [] := by
        refine List.filterMap_eq_nil_iff.mpr fun move member => ?_
        rw [resting move ((List.takeWhile_prefix _).mem member)]
        rfl
      rw [acceptedOn moves rfl,nothing]
      exact List.nil_prefix
    · intro turned
      obtain here | later := List.mem_cons.mp turned
      · cases here
      · cases resting _ later
    · intro taken _
      exact absurd List.mem_cons_self (taken _)

theorem worksCourse (course : Course polling first moves last) (within : InBatch first.poller) :
    WorksOff first.poller moves := by
  induction course with
  | here moment =>
    refine ⟨List.nil_prefix,nofun,fun _ enough => ?_⟩
    obtain ⟨_,same⟩ | ⟨_,_,same⟩ := within
    all_goals
      rw [work,same] at enough
      simp [waiting] at enough
  | on steps scene rest ih => exact worksTurn (stepped polling steps) within ih (restsOver rest)

end Working

def WorkedOff (batch : List Value) (moves : List Move) : Prop :=
  .turns ∈ moves ∨
    (∀ update, .refuses update ∉ moves) ∧ 2 * batch.length + 1 + waiting moves ≤ moves.length

section Delivering
variable {polling : LongPolling} {first last : Moment site} {moves : List Move} {offset asked : Int}
  {outcome : Except Failure (List Value)} {batch : List Value}

theorem keptStart (offset : Int) : Kept offset [] ⟨offset,.checking⟩ :=
  ⟨.nil,nofun,Int.le_refl _,rfl⟩

def onward (polling : LongPolling) : Except Failure (List Value) → Phase
  | .ok batch => .delivering batch
  | .error failure => polling.afterward failure

theorem turnAsks {scene : Scene (Station site)} {phase : Phase} {after : Poller}
    {station : Station site}
    (turn : Turn polling scene offset phase (.asks asked outcome) after station) :
    phase = .asking ∧ asked = offset ∧ after = ⟨offset,polling.onward outcome⟩ := by
  cases turn with
  | answered answer => exact ⟨rfl,rfl,rfl⟩
  | failed answer => exact ⟨rfl,rfl,rfl⟩

theorem Course.atCall {before after : List Move}
    (course : Course polling first (before ++ .asks asked outcome :: after) last) :
    (∃ scene, Course polling first before ⟨⟨asked,.asking⟩,scene⟩) ∧
      ∃ scene, Course polling ⟨⟨asked,polling.onward outcome⟩,scene⟩ after last := by
  obtain ⟨⟨⟨offset,phase⟩,between⟩,early,late⟩ := course.cut
  generalize here : Move.asks asked outcome :: after = moves at late
  cases late with
  | here => cases here
  | on steps scene rest =>
    obtain ⟨move,rfl⟩ := List.cons.inj here
    have turn := stepped polling steps
    rw [← move] at turn
    obtain ⟨rfl,rfl,rfl⟩ := turnAsks turn
    exact ⟨⟨between,early⟩,⟨scene,rest⟩⟩

theorem askedDue {before after : List Move} (course : Course polling first
      (before ++ .asks asked outcome :: after) last)
    (start : first.poller = ⟨offset,.checking⟩) :
    asked = due offset before ∧
      ∀ batch, outcome = .ok batch → WorksOff ⟨asked,.delivering batch⟩ after := by
  obtain ⟨⟨_,early⟩,⟨_,late⟩⟩ := course.atCall
  have kept := keptStart offset
  rw [← start] at kept
  refine ⟨(keptCourse kept early).ready,?_⟩
  rintro batch rfl
  exact worksCourse late (.inl ⟨batch,rfl⟩)

theorem workedOff {after : List Move} (works : WorksOff ⟨asked,.delivering batch⟩ after)
    (done : WorkedOff batch after) : accepted (untilTurn after) = fresh asked batch := by
  obtain turned | ⟨taken,enough⟩ := done
  · exact works.whole turned
  · exact works.whole (works.ends taken enough)

end Delivering

end BotGateway.LongPolling
