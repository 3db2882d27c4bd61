import BotGateway.Proofs.Text.Case
import BotGateway.Proofs.Text.Utf8
import BotGateway.Proofs.Webhook.Watched

/-! What a request to a webhook comes to, in both ways of serving. Its status is settled by the
method, the secret, the reading and the handler, in this order, and nothing is read or called that
an earlier step ruled out. This holds exactly where a secret can be compared with what is given. -/
namespace BotGateway

structure Run (world : Type) where
  outcome : Except Failure Status
  deeds : List Deed
  journal : Journal
  world : world

namespace Ingress
variable {world : Type}

abbrev Serving (world : Type) :=
  Ingress world → Text → Option Text → Action world Bytes → Action world Status

def observed (serve : Serving (Watched world)) (ingress : Ingress world) (method : Text)
    (header : Option Text) (read : Action world Bytes) (scene : Scene world) : Run world :=
  let (outcome,after) := (serve (Watched.serving ingress) method header
    (Watched.reading read)).perform ⟨scene.journal,⟨[],scene.world⟩⟩
  ⟨outcome,after.world.deeds,after.journal,after.world.world⟩

section Requests
variable (ingress : Ingress world) (method : Text) (header : Option Text)
  (read : Action world Bytes) (scene : Scene world)

theorem servedAlike : observed processWaiting ingress method header read scene =
    observed process ingress method header read scene := by
  unfold observed
  rw [processWaitingAlike]

theorem observedOutcome : (observed process ingress method header read scene).outcome =
    ((ingress.process method header read).perform scene).1 :=
  (Watched.Shows.process ingress method header read ⟨scene.journal,⟨[],scene.world⟩⟩).1

end Requests

def Posted (method : Text) : Prop := method.map Case.asciiLower = "post"

def Refuses (secret header : Option Text) : Prop :=
  ∃ expected, secret = some expected ∧ expected ≠ [] ∧ header ≠ some expected

def Comparable (secret header : Option Text) : Prop :=
  ∀ expected given, secret = some expected → expected ≠ [] → header = some given →
    Utf8.Encodable expected ∧ Utf8.Encodable given

theorem acceptsPosted {method : Text} (ascii : Case.Ascii method) :
    accepts method = true ↔ Posted method := by
  have capitals : ("POST" : Text) = ("post" : Text).map Case.asciiUpper := by decide
  have small : ("post" : Text).map Case.asciiLower = "post" := by decide
  have alike := Case.alikeEither method "post"
  rw [← capitals,small] at alike
  rw [accepts,Case.upperAscii ascii,beq_iff_eq]
  exact alike

theorem encodedCases (t : Text) :
    (Utf8.Encodable t ∧ encoded t = .ok (Utf8.bytesOf t)) ∨
    (¬Utf8.Encodable t ∧ ∃ found, encoded t = .error (.unencodable found)) := by
  cases written : Utf8.encode t with
  | ok raw =>
    obtain ⟨encodable,rfl⟩ := Utf8.encodeSome.mp written
    exact .inl ⟨encodable,by rw [encoded,written]⟩
  | error found =>
    refine .inr ⟨fun encodable => ?_,found,by rw [encoded,written]⟩
    rw [Utf8.encodeEncodable encodable] at written
    cases written

inductive Met (secret header : Option Text) : Except Failure Unit → Prop where
  | admitted (comparable : Comparable secret header) (free : ¬Refuses secret header) :
      Met secret header (.ok ())
  | refused (comparable : Comparable secret header) (refuses : Refuses secret header) :
      Met secret header (.error .secretMismatch)
  | unencodable (found : Utf8.LoneSurrogates) (not : ¬Comparable secret header) :
      Met secret header (.error (.unencodable found))

theorem freeWithout {secret header : Option Text} (without : secret = none ∨ secret = some []) :
    Met secret header (.ok ()) := by
  refine .admitted ?_ ?_
  · rintro expected given rfl filled -
    rcases without with none | same
    · cases none
    · exact absurd (Option.some.inj same) filled
  · rintro ⟨expected,rfl,filled,-⟩
    rcases without with none | same
    · cases none
    · exact absurd (Option.some.inj same) filled

theorem authenticateMet (secret header : Option Text) :
    Met secret header (authenticate secret header) := by
  match secret,header with
  | none,_ => exact freeWithout (.inl rfl)
  | some [],_ => exact freeWithout (.inr rfl)
  | some (c :: rest),none =>
    refine .refused ?_ ⟨_,rfl,List.cons_ne_nil _ _,nofun⟩
    rintro _ _ - - ⟨⟩
  | some (c :: rest),some header =>
    have comparable : Comparable (some (c :: rest)) (some header) ↔
        Utf8.Encodable (c :: rest) ∧ Utf8.Encodable header := by
      constructor
      · intro both
        exact both _ _ rfl (List.cons_ne_nil _ _) rfl
      · rintro both _ _ ⟨⟩ - ⟨⟩
        exact both
    simp only [authenticate]
    obtain ⟨plainHeader,given⟩ | ⟨wild,found,given⟩ := encodedCases header
    · obtain ⟨plainSecret,expected⟩ | ⟨wild,found,expected⟩ := encodedCases (c :: rest)
      · have both := comparable.mpr ⟨plainSecret,plainHeader⟩
        simp only [given,expected,bind,Except.bind,beq_iff_eq]
        by_cases same : Utf8.bytesOf header = Utf8.bytesOf (c :: rest)
        · rw [if_pos same]
          refine .admitted both ?_
          rintro ⟨_,⟨⟩,-,differs⟩
          exact differs (congrArg some (Utf8.bytesOfInjective plainHeader plainSecret same))
        · rw [if_neg same]
          refine .refused both ⟨_,rfl,List.cons_ne_nil _ _,?_⟩
          rintro ⟨⟩
          exact same rfl
      · rw [given,expected]
        exact .unencodable found fun both => wild (comparable.mp both).1
    · rw [given]
      exact .unencodable found fun both => wild (comparable.mp both).2

def work (ingress : Ingress world) (read : Action world Bytes) : Action world Unit := do
  ingress.handler.runBlocking (← read)

def deedsOf : Except Failure Bytes → List Deed
  | .ok body => [.reads,.calls body]
  | .error _ => [.reads]

section Answers

theorem answerOk (ended : Except Failure Unit) : answer ended = .ok .ok ↔ ended = .ok () := by
  cases ended with
  | ok => simp [answer]
  | error failure => cases h : failure.kind.isOrdinary <;> simp [answer,h]

theorem answerServerError (ended : Except Failure Unit) : answer ended = .ok .serverError ↔
    ∃ failure, failure.kind.isOrdinary = true ∧ ended = .error failure := by
  cases ended with
  | ok => simp [answer]
  | error failure => cases h : failure.kind.isOrdinary <;> simp [answer,h]

theorem answerError (ended : Except Failure Unit) (failure : Failure) :
    answer ended = .error failure ↔ failure.kind.isOrdinary = false ∧ ended = .error failure := by
  cases ended with
  | ok => simp [answer]
  | error raised =>
    cases h : raised.kind.isOrdinary with
    | true =>
      simp only [answer,h,if_true,reduceCtorEq,Except.error.injEq,false_iff,not_and]
      rintro other rfl
      simp [other] at h
    | false =>
      simp only [answer,h,Bool.false_eq_true,if_false,Except.error.injEq,iff_and_self]
      rintro rfl
      exact h

theorem answerOther (ended : Except Failure Unit) {status : Status} (notOk : status ≠ .ok)
    (notFailed : status ≠ .serverError) : answer ended ≠ .ok status := by
  cases ended with
  | ok => simpa [answer] using notOk.symm
  | error failure =>
    cases h : failure.kind.isOrdinary with
    | true => simpa [answer,h] using notFailed.symm
    | false => simp [answer,h]

end Answers

section Steps
variable {ingress : Ingress world} {method : Text} {header : Option Text}
  (read : Action world Bytes) (scene : Scene world)

theorem ruledOut (other : accepts method = false) :
    (observed process ingress method header read scene).outcome = .ok .methodNotAllowed ∧
    (observed process ingress method header read scene).deeds = [] := by
  simp [observed,process,other]

theorem turnedAway {failure : Failure} (posted : accepts method = true)
    (failed : authenticate ingress.secret header = .error failure) :
    (observed process ingress method header read scene).outcome =
      ((reject failure).perform scene).1 ∧
    (observed process ingress method header read scene).deeds = [] := by
  rw [observedOutcome]
  constructor
  · simp [process,posted,failed]
  · simp only [observed,process,Watched.serving,posted,failed,if_true]
    cases failure <;> rfl

theorem letIn (posted : accepts method = true)
    (passed : authenticate ingress.secret header = .ok ()) :
    (observed process ingress method header read scene).outcome =
      answer ((ingress.work read).perform scene).1 ∧
    (observed process ingress method header read scene).deeds =
      deedsOf (read.perform scene).1 := by
  rw [observedOutcome]
  constructor
  · simp only [process,posted,passed,if_true,work,Action.perform_bind,
      Action.perform_outcome]
    rcases read.perform scene with ⟨failure | body,after⟩
    · cases ordinary : failure.kind.isOrdinary with
      | true => simp [ordinary,reject,answer,Except.map]
      | false => simp [ordinary,answer]
    · exact (dispatchAnswers ingress.handler body after).1
  · simp only [observed,process,Watched.serving,posted,passed,if_true,Action.perform_bind,
      Action.perform_outcome]
    have shown := (Watched.Shows.reading read ⟨scene.journal,⟨[],scene.world⟩⟩).1
    have noted := Watched.readingDeeds read ⟨scene.journal,⟨[],scene.world⟩⟩
    rcases ended : (Watched.reading read).perform ⟨scene.journal,⟨[],scene.world⟩⟩ with ⟨result,after⟩
    rw [ended] at shown noted
    have same : (read.perform scene).1 = result := shown.symm
    rw [same]
    cases result with
    | error failure =>
      dsimp only
      cases failure.kind.isOrdinary with
      | true => exact noted
      | false => exact noted
    | ok body =>
      have called := (dispatchAnswers (Watched.calling ingress.handler) body after).2
      simp only
      rw [called,Watched.callingDeeds,noted]
      rfl

end Steps

structure Lawful (ingress : Ingress world) (method : Text) (header : Option Text)
    (read : Action world Bytes) (scene : Scene world) (run : Run world) : Prop where
  methodNotAllowed : run.outcome = .ok .methodNotAllowed ↔ ¬Posted method
  unauthorized : run.outcome = .ok .unauthorized ↔
    Posted method ∧ Refuses ingress.secret header
  serverError : run.outcome = .ok .serverError ↔
    (Posted method ∧ ¬Refuses ingress.secret header) ∧
      ∃ failure, failure.kind.isOrdinary = true ∧
        ((ingress.work read).perform scene).1 = .error failure
  ok : run.outcome = .ok .ok ↔
    (Posted method ∧ ¬Refuses ingress.secret header) ∧
      ((ingress.work read).perform scene).1 = .ok ()
  escapes : ∀ failure, run.outcome = .error failure ↔
    (Posted method ∧ ¬Refuses ingress.secret header) ∧
      failure.kind.isOrdinary = false ∧
        ((ingress.work read).perform scene).1 = .error failure
  untouched : ¬(Posted method ∧ ¬Refuses ingress.secret header) → run.deeds = []
  touched : Posted method ∧ ¬Refuses ingress.secret header →
    run.deeds = deedsOf (read.perform scene).1

section Promise
variable {ingress : Ingress world} {method : Text} {header : Option Text}
  {read : Action world Bytes} {scene : Scene world} {run : Run world}

theorem lawfulOther (other : ¬Posted method)
    (ends : run.outcome = .ok .methodNotAllowed ∧ run.deeds = []) :
    Lawful ingress method header read scene run := by
  obtain ⟨outcome,deeds⟩ := ends
  constructor <;> simp [outcome,deeds,other]

theorem lawfulRefused (posted : Posted method) (refuses : Refuses ingress.secret header)
    (ends : run.outcome = .ok .unauthorized ∧ run.deeds = []) :
    Lawful ingress method header read scene run := by
  obtain ⟨outcome,deeds⟩ := ends
  constructor <;> simp [outcome,deeds,posted,refuses]

theorem lawfulAdmitted (posted : Posted method) (free : ¬Refuses ingress.secret header)
    (ends : run.outcome = answer ((ingress.work read).perform scene).1 ∧
      run.deeds = deedsOf (read.perform scene).1) :
    Lawful ingress method header read scene run := by
  obtain ⟨outcome,deeds⟩ := ends
  have admitted : Posted method ∧ ¬Refuses ingress.secret header := ⟨posted,free⟩
  constructor
  case methodNotAllowed => simp [outcome,posted,answerOther]
  case unauthorized => simp [outcome,free,answerOther]
  case serverError => rw [outcome,answerServerError,and_iff_right admitted]
  case ok => rw [outcome,answerOk,and_iff_right admitted]
  case escapes =>
    intro failure
    rw [outcome,answerError,and_iff_right admitted]
  case untouched => exact fun kept => absurd admitted kept
  case touched => exact fun _ => deeds

theorem lawfulEscaped {failure : Failure} (lawful : Lawful ingress method header read scene run)
    (outcome : run.outcome = .error failure) : failure.kind.isOrdinary = false :=
  ((lawful.escapes failure).mp outcome).2.1

end Promise

theorem lawfulExactly (ingress : Ingress world) {method : Text} (ascii : Case.Ascii method)
    (header : Option Text) (read : Action world Bytes) (scene : Scene world) :
    Lawful ingress method header read scene (observed process ingress method header read scene) ↔
      (Posted method → Comparable ingress.secret header) := by
  cases posted : accepts method with
  | false =>
    have other : ¬Posted method := fun same => by simp [(acceptsPosted ascii).mpr same] at posted
    exact ⟨fun _ same => absurd same other,fun _ => lawfulOther other (ruledOut read scene posted)⟩
  | true =>
    have same := (acceptsPosted ascii).mp posted
    have met := authenticateMet ingress.secret header
    generalize ended : authenticate ingress.secret header = result at met
    cases met with
    | admitted comparable free =>
      exact ⟨fun _ _ => comparable,fun _ => lawfulAdmitted same free (letIn read scene posted ended)⟩
    | refused comparable refuses =>
      have ends := turnedAway read scene posted ended
      exact ⟨fun _ _ => comparable,fun _ => lawfulRefused same refuses ends⟩
    | unencodable found not =>
      have ends := turnedAway read scene posted ended
      refine ⟨fun lawful => ?_,fun comparable => absurd (comparable same) not⟩
      have ordinary := lawfulEscaped lawful ends.1
      cases ordinary

def letterIngress : Ingress Unit := ⟨Handler.direct fun _ => return,some "s"⟩

theorem letterLawful : Case.Ascii "pOsT" ∧ Comparable (some "s") (some "s") ∧
    Lawful letterIngress "pOsT" (some "s") (return ascii "x") ⟨.empty,()⟩
      (observed process letterIngress "pOsT" (some "s") (return ascii "x") ⟨.empty,()⟩) := by
  have method : Case.Ascii "pOsT" := by decide
  have comparable : Comparable (some "s") (some "s") := by
    rintro _ _ ⟨⟩ - ⟨⟩
    exact ⟨Utf8.stringEncodable "s",Utf8.stringEncodable "s"⟩
  exact ⟨method,comparable,(lawfulExactly letterIngress method (some "s") _ _).mpr fun _ => comparable⟩

theorem surrogateHeaderEscapes :
    (observed process letterIngress "POST" (some [.ofNat 0xD800]) (return ascii "x")
      ⟨.empty,()⟩).outcome = .error (.unencodable ⟨0,.ofNat 0xD800,1⟩) ∧
    (Failure.unencodable ⟨0,.ofNat 0xD800,1⟩).kind.isOrdinary = true ∧
    ¬Lawful letterIngress "POST" (some [.ofNat 0xD800]) (return ascii "x") ⟨.empty,()⟩
      (observed process letterIngress "POST" (some [.ofNat 0xD800]) (return ascii "x")
        ⟨.empty,()⟩) := by
  have posted : accepts "POST" = true := by decide
  have failed : authenticate letterIngress.secret (some [.ofNat 0xD800]) =
      .error (.unencodable ⟨0,.ofNat 0xD800,1⟩) := rfl
  have escaped := (turnedAway (return ascii "x") ⟨.empty,()⟩ posted failed).1
  refine ⟨escaped,rfl,fun lawful => ?_⟩
  have ordinary := lawfulEscaped lawful escaped
  cases ordinary

end Ingress
end BotGateway
