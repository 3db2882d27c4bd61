import BotGateway.Proofs.Action
import BotGateway.Webhook.Shared

/-! One server behind many bots. In whatever order it is called, the server sees the first start, the
first stop and every registration; a later start or stop is given the outcome of the first of its kind,
and the two kinds have no part in each other. -/
namespace BotGateway

namespace Once
variable {world : Type} {α : Type} (view : world → Once α) (put : Once α → world → world)
  (task : Action world α) {scene : Scene world}

theorem runsFirst (fresh : (view scene.world).outcome = none) :
    (run view put task).perform scene = ((task.perform scene).1,
      ⟨(task.perform scene).2.journal,put ⟨some (task.perform scene).1⟩ (task.perform scene).2.world⟩) := by
  rw [run,Action.perform_bind,Action.perform_current]
  dsimp only
  rw [fresh]
  rfl

theorem runsLater {outcome : Except Failure α}
    (kept : (view scene.world).outcome = some outcome) :
    (run view put task).perform scene = (outcome,scene) := by
  rw [run,Action.perform_bind,Action.perform_current]
  dsimp only
  rw [kept]
  rfl

end Once

namespace Shared
variable {world : Type}

inductive Guard where
  | start
  | stop
  deriving DecidableEq

inductive Call (world : Type) where
  | start (address : Text)
  | stop (timeout : Value)
  | register (path : Text) (ingress : Ingress world)

namespace Call

def guard? : Call world → Option Guard
  | .start _ => some .start
  | .stop _ => some .stop
  | .register .. => none

def direct (server : Server world) : Call world → Action world Value
  | .start address => server.start address
  | .stop timeout => server.stop timeout
  | .register path ingress => do
    let _ ← server.register path ingress
    return .null

def through (server : Server world) : Call world → Action (Shared world) Value
  | .start address => Shared.start server address
  | .stop timeout => Shared.stop server timeout
  | .register path ingress => Shared.register server path ingress

end Call

/-- A call and what it came to. A server may tell its failures apart, by a number in their text for
one, so equal outcomes are one and the same. -/
structure Exchange (world : Type) where
  call : Call world
  outcome : Except Failure Value

def Exchange.under (guard : Option Guard) (exchange : Exchange world) : Bool :=
  exchange.call.guard? == guard

theorem Exchange.underGuard {guard : Option Guard} {exchange : Exchange world} :
    exchange.under guard = true ↔ exchange.call.guard? = guard := beq_iff_eq

def run (server : Server world) :
    List (Call world) → Scene (Shared world) → List (Exchange world) × Scene (Shared world)
  | [], scene => ([],scene)
  | call :: rest, scene =>
    let (outcome,after) := (call.through server).perform scene
    let (others,last) := run server rest after
    (⟨call,outcome⟩ :: others,last)

def ownerScene (scene : Scene (Shared world)) : Scene world := ⟨scene.journal,scene.world.owner⟩

inductive Visits (server : Server world) :
    Scene world → List (Exchange world) → Scene world → Prop where
  | rests (scene : Scene world) : Visits server scene [] scene
  | noted {scene last : Scene world} {visits : List (Exchange world)} (entry : Entry)
      (later : Visits server ⟨scene.journal.write entry,scene.world⟩ visits last) :
      Visits server scene visits last
  | called {scene after last : Scene world} {call : Call world} {outcome : Except Failure Value}
      {visits : List (Exchange world)} (calls : (call.direct server).perform scene = (outcome,after))
      (later : Visits server after visits last) :
      Visits server scene (⟨call,outcome⟩ :: visits) last

def Records {entry : Type} (server : Server world) (record : world → List entry)
    (name : Call world → entry) : Prop :=
  ∀ call scene, record ((Call.direct server call).perform scene).2.world =
    record scene.world ++ [name call]

theorem Visits.recorded {server : Server world} {first last : Scene world}
    {visits : List (Exchange world)} (went : Visits server first visits last) {entry : Type}
    {record : world → List entry} {name : Call world → entry} (records : Records server record name) :
    record last.world = record first.world ++ visits.map fun visit => name visit.call := by
  induction went with
  | rests scene => rw [List.map_nil,List.append_nil]
  | noted entry later ih => exact ih
  | @called scene after last call outcome visits calls later ih =>
    have grown := records call scene
    rw [calls] at grown
    rw [ih,grown,List.append_assoc]
    rfl

def once : Guard → Shared world → Once Value
  | .start => Shared.started
  | .stop => Shared.stopped

def keep (outcome : Except Failure Value) (shared : Shared world) : Option Guard → Shared world
  | some .start => {shared with started := ⟨some outcome⟩}
  | some .stop => {shared with stopped := ⟨some outcome⟩}
  | none => shared

section Keeping
variable (outcome : Except Failure Value) (shared : Shared world) (guard : Guard)

theorem keepOwner (under : Option Guard) : (keep outcome shared under).owner = shared.owner := by
  cases under with
  | none => rfl
  | some guard => cases guard <;> rfl

theorem keepSame : once guard (keep outcome shared (some guard)) = ⟨some outcome⟩ := by
  cases guard <;> rfl

theorem keepOther {under : Option Guard} (other : under ≠ some guard) :
    once guard (keep outcome shared under) = once guard shared := by
  cases under with
  | none => rfl
  | some found => cases found <;> cases guard <;> first | rfl | exact absurd rfl other

end Keeping

section Steps
variable (server : Server world) {call : Call world} {scene : Scene (Shared world)}

def reached (call : Call world) (scene : Scene (Shared world))
    (ended : Except Failure Value × Scene world) : Scene (Shared world) :=
  ⟨ended.2.journal,keep ended.1 {scene.world with owner := ended.2.world} call.guard?⟩

theorem reachedOwner (ended : Except Failure Value × Scene world) :
    ownerScene (reached call scene ended) = ended.2 := by
  rw [ownerScene,reached,keepOwner]

theorem reachedKept (ended : Except Failure Value × Scene world) {guard : Guard}
    (under : call.guard? = some guard) :
    (once guard (reached call scene ended).world).outcome = some ended.1 := by
  rw [reached,under,keepSame]

theorem reachedOther (ended : Except Failure Value × Scene world) {guard : Guard}
    (other : call.guard? ≠ some guard) :
    once guard (reached call scene ended).world = once guard scene.world := by
  rw [reached,keepOther _ _ guard other]
  cases guard <;> rfl

theorem freeOrKept (call : Call world) (shared : Shared world) :
    (∀ guard ∈ call.guard?, (once guard shared).outcome = none) ∨
      ∃ guard outcome, call.guard? = some guard ∧ (once guard shared).outcome = some outcome := by
  cases under : call.guard? with
  | none => exact .inl nofun
  | some guard =>
    cases kept : (once guard shared).outcome with
    | none => exact .inl fun _ same => Option.some.inj same ▸ kept
    | some outcome => exact .inr ⟨guard,outcome,rfl,kept⟩

theorem reaches (free : ∀ guard ∈ call.guard?, (once guard scene.world).outcome = none) :
    (call.through server).perform scene =
      (((call.direct server).perform (ownerScene scene)).1,
        reached call scene ((call.direct server).perform (ownerScene scene))) := by
  cases call with
  | register path ingress =>
    simp only [Call.through,Call.direct,Shared.register,onOwner,Action.perform_bind,
      Action.perform_within,← ownerScene.eq_def]
    rcases (server.register path ingress).perform (ownerScene scene) with ⟨_ | _,_⟩ <;> rfl
  | stop timeout =>
    exact Once.runsFirst Shared.stopped (fun once shared => {shared with stopped := once})
      (onOwner (server.stop timeout)) (free .stop rfl)
  | start address =>
    have first : scene.world.started.outcome = none := free .start rfl
    rw [Call.through,Shared.start,Action.perform_bind,Action.perform_current]
    simp only [Once.done,first,Option.isSome_none,Bool.false_eq_true,if_false]
    exact Once.runsFirst Shared.started (fun once shared => {shared with started := once})
      (onOwner (server.start address)) first

theorem replays {guard : Guard} {outcome : Except Failure Value} (under : call.guard? = some guard)
    (kept : (once guard scene.world).outcome = some outcome) :
    ∃ journal, (call.through server).perform scene = (outcome,⟨journal,scene.world⟩) ∧
      (journal = scene.journal ∨ ∃ entry, journal = scene.journal.write entry) := by
  cases call with
  | register path ingress => cases under
  | stop timeout =>
    cases under
    exact ⟨_,Once.runsLater Shared.stopped (fun once shared => {shared with stopped := once})
      (onOwner (server.stop timeout)) kept,.inl rfl⟩
  | start address =>
    cases under
    have later : scene.world.started.outcome = some outcome := kept
    rw [Call.through,Shared.start,Action.perform_bind,Action.perform_current]
    simp only [Once.done,later,Option.isSome_some,if_true,Action.perform_bind,Action.perform_note]
    exact ⟨_,Once.runsLater Shared.started (fun once shared => {shared with started := once})
      (onOwner (server.start address)) later,.inr ⟨_,rfl⟩⟩

end Steps

/-- From wherever a run sets out: what a guard has it keeps and gives, and what goes to the server is
the first call under each guard that has nothing, and every call under none. -/
structure Shares (before after : Shared world) (exchanges visits : List (Exchange world)) : Prop where
  order : visits.Sublist exchanges
  free : visits.filter (Exchange.under none) = exchanges.filter (Exchange.under none)
  closed : ∀ guard outcome, (once guard before).outcome = some outcome →
    visits.filter (Exchange.under (some guard)) = [] ∧ (once guard after).outcome = some outcome
  opened : ∀ guard, (once guard before).outcome = none →
    visits.filter (Exchange.under (some guard)) =
      (exchanges.filter (Exchange.under (some guard))).take 1
  given : ∀ guard, ∀ exchange ∈ exchanges, exchange.under (some guard) →
    (once guard after).outcome = some exchange.outcome
  idle : ∀ guard, exchanges.filter (Exchange.under (some guard)) = [] →
    once guard after = once guard before

section Runs
variable {before middle after : Shared world} {exchange : Exchange world}
  {others visits : List (Exchange world)}

theorem sharesReached (fresh : ∀ guard ∈ exchange.call.guard?, (once guard before).outcome = none)
    (kept : ∀ guard, exchange.call.guard? = some guard →
      (once guard middle).outcome = some exchange.outcome)
    (same : ∀ guard, exchange.call.guard? ≠ some guard → once guard middle = once guard before)
    (rest : Shares middle after others visits) :
    Shares before after (exchange :: others) (exchange :: visits) := by
  constructor
  case order => exact rest.order.cons_cons exchange
  case free =>
    rw [List.filter_cons,List.filter_cons,rest.free]
  case closed =>
    intro guard outcome done
    have other : exchange.call.guard? ≠ some guard := by
      intro under
      rw [fresh guard under] at done
      cases done
    have skipped : ¬exchange.under (some guard) = true := fun under => other (Exchange.underGuard.mp under)
    rw [List.filter_cons_of_neg skipped]
    exact rest.closed guard outcome (same guard other ▸ done)
  case opened =>
    intro guard free
    by_cases under : exchange.call.guard? = some guard
    · have taken := Exchange.underGuard.mpr under
      rw [List.filter_cons_of_pos taken,List.filter_cons_of_pos taken,
        (rest.closed guard _ (kept guard under)).1]
      rfl
    · have skipped : ¬exchange.under (some guard) = true := fun found => under (Exchange.underGuard.mp found)
      rw [List.filter_cons_of_neg skipped,List.filter_cons_of_neg skipped]
      exact rest.opened guard (same guard under ▸ free)
  case given =>
    intro guard
    rw [List.forall_mem_cons]
    refine ⟨fun under => ?_,rest.given guard⟩
    exact (rest.closed guard _ (kept guard (Exchange.underGuard.mp under))).2
  case idle =>
    intro guard none
    have skipped : ¬exchange.under (some guard) = true := by
      intro under
      rw [List.filter_cons_of_pos under] at none
      cases none
    rw [List.filter_cons_of_neg skipped] at none
    exact (rest.idle guard none).trans (same guard fun under => skipped (Exchange.underGuard.mpr under))

theorem sharesReplayed {guard : Guard} (under : exchange.call.guard? = some guard)
    (kept : (once guard before).outcome = some exchange.outcome)
    (rest : Shares before after others visits) : Shares before after (exchange :: others) visits := by
  have taken := Exchange.underGuard.mpr under
  constructor
  case order => exact rest.order.cons exchange
  case free =>
    have skipped : ¬exchange.under none = true := by
      rw [Exchange.underGuard,under]
      nofun
    rw [List.filter_cons_of_neg skipped]
    exact rest.free
  case closed => exact rest.closed
  case opened =>
    intro other free
    have skipped : ¬exchange.under (some other) = true := by
      rw [Exchange.underGuard,under]
      rintro ⟨⟩
      rw [kept] at free
      cases free
    rw [List.filter_cons_of_neg skipped]
    exact rest.opened other free
  case given =>
    intro other
    rw [List.forall_mem_cons]
    refine ⟨fun found => ?_,rest.given other⟩
    have same := under.symm.trans (Exchange.underGuard.mp found)
    cases same
    exact (rest.closed guard _ kept).2
  case idle =>
    intro other none
    refine rest.idle other ?_
    rw [List.filter_cons] at none
    split at none
    · cases none
    · exact none

theorem runShares (server : Server world) (calls : List (Call world)) (scene : Scene (Shared world)) :
    ∃ visits, Visits server (ownerScene scene) visits (ownerScene (run server calls scene).2) ∧
      Shares scene.world (run server calls scene).2.world (run server calls scene).1 visits := by
  induction calls generalizing scene with
  | nil => exact ⟨[],.rests _,.slnil,rfl,fun _ _ done => ⟨rfl,done⟩,fun _ _ => rfl,nofun,fun _ _ => rfl⟩
  | cons call rest ih =>
    obtain free | ⟨guard,outcome,under,kept⟩ := freeOrKept call scene.world
    · have step := reaches server free
      rcases calls : (call.direct server).perform (ownerScene scene) with ended
      rw [calls] at step
      obtain ⟨visits,went,shares⟩ := ih (reached call scene ended)
      rw [reachedOwner] at went
      rw [run,step]
      exact ⟨_,.called calls went,sharesReached free (fun _ under => reachedKept ended under)
        (fun _ other => reachedOther ended other) shares⟩
    · obtain ⟨journal,step,quiet⟩ := replays server under kept
      obtain ⟨visits,went,shares⟩ := ih ⟨journal,scene.world⟩
      rw [run,step]
      refine ⟨visits,?_,sharesReplayed under kept shares⟩
      obtain rfl | ⟨entry,rfl⟩ := quiet
      · exact went
      · exact .noted entry went

theorem runCalls (server : Server world) (calls : List (Call world)) (scene : Scene (Shared world)) :
    (run server calls scene).1.map (·.call) = calls := by
  induction calls generalizing scene with
  | nil => rfl
  | cons call rest ih => rw [run,List.map_cons,ih]

end Runs

/-- What bots and server have of each other, from the first call on. `answered`: every call comes to
something. `went` and `recorded`: the visits are all that the server sees, and all that any record of
its calls can hold. `order`, `registered` and `first`: the visits are calls as they were made, in
their order; every registration is one, and of the starts and of the stops the first is. `replayed`: a
start comes to what the start that went to the server came to, and a stop likewise. `apart`: what a
guard keeps depends on the calls under it alone. -/
structure OnceEach (server : Server world) (calls : List (Call world)) (scene : Scene world)
    (exchanges visits : List (Exchange world)) (last : Scene (Shared world)) : Prop where
  answered : exchanges.map (·.call) = calls
  went : Visits server scene visits (ownerScene last)
  recorded : ∀ {entry : Type} {record : world → List entry} {name : Call world → entry},
    Records server record name →
      record last.world.owner = record scene.world ++ visits.map fun visit => name visit.call
  order : visits.Sublist exchanges
  registered : visits.filter (Exchange.under none) = exchanges.filter (Exchange.under none)
  first : ∀ guard : Guard,
    visits.filter (Exchange.under guard) = (exchanges.filter (Exchange.under guard)).take 1
  replayed : ∀ guard : Guard, ∀ visit ∈ visits, visit.under guard →
    ∀ exchange ∈ exchanges, exchange.under guard → exchange.outcome = visit.outcome
  apart : ∀ guard : Guard,
    (once guard last.world).outcome = (exchanges.find? (Exchange.under guard)).map (·.outcome)

theorem sharedOnce (server : Server world) (calls : List (Call world)) (scene : Scene world) :
    ∃ visits, OnceEach server calls scene
      (run server calls ⟨scene.journal,.fresh scene.world⟩).1 visits
      (run server calls ⟨scene.journal,.fresh scene.world⟩).2 := by
  obtain ⟨visits,went,shares⟩ := runShares server calls ⟨scene.journal,.fresh scene.world⟩
  have fresh (guard : Guard) : (once guard (Shared.fresh scene.world)).outcome = none := by
    cases guard <;> rfl
  refine ⟨visits,runCalls server calls _,went,went.recorded,shares.order,shares.free,
    fun guard => shares.opened guard (fresh guard),?_,?_⟩
  · intro guard visit visited visitUnder exchange exchanged under
    have kept := shares.given guard exchange exchanged under
    rw [shares.given guard visit (shares.order.mem visited) visitUnder] at kept
    exact (Option.some.inj kept).symm
  · intro guard
    cases found : (run server calls ⟨scene.journal,.fresh scene.world⟩).1.find?
        (Exchange.under guard) with
    | none =>
      rw [shares.idle guard (List.filter_eq_nil_iff.mpr (List.find?_eq_none.mp found)),fresh guard]
      rfl
    | some exchange =>
      exact shares.given guard exchange (List.mem_of_find?_eq_some found) (List.find?_some found)

end Shared
end BotGateway
