import BotGateway.Action

/-! What performing an action comes to, for each way in which actions are built. -/
namespace BotGateway.Action
variable {world inner : Type} {α β : Type}

@[simp] theorem perform_pure (a : α) (scene : Scene world) :
    (pure a : Action world α).perform scene = (.ok a,scene) := rfl

@[simp] theorem perform_throw (failure : Failure) (scene : Scene world) :
    (throw failure : Action world α).perform scene = (.error failure,scene) := rfl

theorem perform_bind (action : Action world α) (next : α → Action world β) (scene : Scene world) :
    (action >>= next).perform scene =
      match action.perform scene with
      | (.ok a,after) => (next a).perform after
      | (.error failure,after) => (.error failure,after) := by
  have opened : (action >>= next).perform scene =
      ExceptT.bindCont next (action.perform scene).1 (action.perform scene).2 := rfl
  rw [opened]
  rcases action.perform scene with ⟨_ | _,after⟩ <;> rfl

@[simp] theorem perform_map (f : α → β) (action : Action world α) (scene : Scene world) :
    (f <$> action).perform scene = ((action.perform scene).1.map f,(action.perform scene).2) := by
  rw [← bind_pure_comp,perform_bind]
  rcases action.perform scene with ⟨_ | _,after⟩ <;> rfl

@[simp] theorem perform_current (scene : Scene world) :
    (current : Action world world).perform scene = (.ok scene.world,scene) := rfl

@[simp] theorem perform_change (step : world → world) (scene : Scene world) :
    (change step).perform scene = (.ok (),⟨scene.journal,step scene.world⟩) := rfl

@[simp] theorem perform_note (level : Level) (message : Text) (details : Details) (scene : Scene world) :
    (note level message details).perform scene =
      (.ok (),⟨scene.journal.write ⟨level,message,details⟩,scene.world⟩) := rfl

@[simp] theorem perform_outcome (action : Action world α) (scene : Scene world) :
    (outcome action).perform scene = (.ok (action.perform scene).1,(action.perform scene).2) := rfl

@[simp] theorem perform_within (view : world → inner) (put : inner → world → world)
    (action : Action inner α) (scene : Scene world) :
    (within view put action).perform scene =
      ((action.perform ⟨scene.journal,view scene.world⟩).1,
        ⟨(action.perform ⟨scene.journal,view scene.world⟩).2.journal,
          put (action.perform ⟨scene.journal,view scene.world⟩).2.world scene.world⟩) := rfl

@[simp] theorem perform_ofExcept (result : Except Failure α) (scene : Scene world) :
    (MonadExcept.ofExcept result : Action world α).perform scene = (result,scene) := by
  cases result <;> rfl

theorem perform_closing (action : Action world α) (last : Action world Unit) (scene : Scene world) :
    (closing action last).perform scene =
      match last.perform (action.perform scene).2 with
      | (.ok _,after) => ((action.perform scene).1,after)
      | (.error failure,after) => (.error failure,after) := by
  rw [closing,perform_bind,perform_outcome]
  dsimp only
  rw [perform_bind]
  rcases last.perform (action.perform scene).2 with ⟨_ | _,after⟩ <;> rfl

theorem closingEnds (action : Action world α) (last : Action world Unit) (scene : Scene world) :
    ((closing action last).perform scene).2 = (last.perform (action.perform scene).2).2 := by
  rw [perform_closing]
  rcases last.perform (action.perform scene).2 with ⟨_ | _,after⟩ <;> rfl

def Shows (view : inner → world) (shown : Action inner α) (action : Action world α) : Prop :=
  ∀ scene, (shown.perform scene).1 = (action.perform ⟨scene.journal,view scene.world⟩).1 ∧
    (⟨(shown.perform scene).2.journal,view (shown.perform scene).2.world⟩ : Scene world) =
      (action.perform ⟨scene.journal,view scene.world⟩).2

namespace Shows
variable {view : inner → world}

theorem pure (a : α) : Shows view (Pure.pure a) (Pure.pure a) := fun _ => ⟨rfl,rfl⟩

theorem throw (failure : Failure) :
    Shows view (MonadExcept.throw failure : Action inner α) (MonadExcept.throw failure) :=
  fun _ => ⟨rfl,rfl⟩

theorem note (level : Level) (message : Text) (details : Details) :
    Shows view (Action.note level message details) (Action.note level message details) :=
  fun _ => ⟨rfl,rfl⟩

theorem bind {shown : Action inner α} {action : Action world α} {shownNext : α → Action inner β}
    {next : α → Action world β} (first : Shows view shown action)
    (following : ∀ a, Shows view (shownNext a) (next a)) :
    Shows view (shown >>= shownNext) (action >>= next) := by
  intro scene
  obtain ⟨result,after⟩ := first scene
  have same : action.perform ⟨scene.journal,view scene.world⟩ =
      ((shown.perform scene).1,⟨(shown.perform scene).2.journal,view (shown.perform scene).2.world⟩) :=
    Prod.ext result.symm after.symm
  rw [perform_bind,perform_bind,same]
  rcases shown.perform scene with ⟨_ | a,after⟩
  · exact ⟨rfl,rfl⟩
  · exact following a after

theorem outcome {shown : Action inner α} {action : Action world α} (same : Shows view shown action) :
    Shows view (Action.outcome shown) (Action.outcome action) := by
  intro scene
  obtain ⟨result,after⟩ := same scene
  exact ⟨congrArg Except.ok result,after⟩

end Shows
end BotGateway.Action
