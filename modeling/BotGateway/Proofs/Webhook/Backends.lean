import BotGateway.Proofs.Http.Answer
import BotGateway.Webhook.Backend

/-! One request to three backends with the same registrations. They answer alike and call the same
handlers exactly where the method is one that all of them route, no other spelling of the path is
registered, and a body that nobody asks for can be dropped. -/
namespace BotGateway
open Http Http.Connection
variable {world : Type}

section Paths

theorem piecesPlain {t : Text} (plain : ('%' : CodePoint) ∉ t) :
    Percent.pieces t = t.map Percent.Piece.plain := by
  induction t using Percent.pieces.induct with
  | case1 a b c rest escape high low _ _ ih =>
    rw [beq_iff_eq.mp escape] at plain
    exact absurd List.mem_cons_self plain
  | case2 a b c rest escape _ ih =>
    rw [beq_iff_eq.mp escape] at plain
    exact absurd List.mem_cons_self plain
  | case3 a b c rest other ih =>
    rw [Percent.pieces,if_neg other,ih (fun member => plain (List.mem_cons_of_mem a member))]
    rfl
  | case4 a rest short ih =>
    rw [Percent.pieces,ih (fun member => plain (List.mem_cons_of_mem a member))]
    · rfl
    · exact short
  | case5 => rfl

theorem decodePlain {t : Text} (plain : ('%' : CodePoint) ∉ t) : Percent.decode t = t := by
  rw [Percent.decode,piecesPlain plain]
  clear plain
  induction t with
  | nil => rfl
  | cons c rest ih => rw [List.map_cons,Percent.decodePieces,ih]

/-- A path that is spelt as it is routed: no escape, no fragment and no host before it. -/
structure Literal (path : Text) : Prop where
  escape : ('%' : CodePoint) ∉ path
  fragment : ('#' : CodePoint) ∉ path
  line : newLine ∉ path
  host : ¬("//" : Text) <+: path

theorem routeLiteral {target : Text} (literal : Literal (pathOf target)) :
    EventLoop.routePath target = pathOf target := by
  have whole : (pathOf target).takeWhile (· != ('#' : CodePoint)) = pathOf target := by
    rw [List.takeWhile_eq_self_iff]
    intro c member
    simp only [bne_iff_ne]
    intro same
    exact literal.fragment (same ▸ member)
  have near : EventLoop.withoutHost (pathOf target) = pathOf target := by
    rw [EventLoop.withoutHost,if_neg]
    intro host
    exact literal.host (List.isPrefixOf_iff_prefix.mp host)
  rw [EventLoop.routePath,whole,near,decodePlain literal.escape]

theorem findExact (routes : Routes world) {path : Text} (line : newLine ∉ path) :
    Multiplexer.find? routes path = routes.ingress? path := by
  have plainly : ∀ route : Text, Multiplexer.takes path route = (path == route) := by
    intro route
    have longer : (path == route ++ "\n") = false := by
      rw [beq_eq_false_iff_ne]
      intro same
      rw [same] at line
      exact line (List.mem_append_right route (by decide))
    rw [Multiplexer.takes,longer,Bool.or_false]
  induction routes with
  | nil => rfl
  | cons route rest ih =>
    obtain ⟨p,ingress⟩ := route
    simp only [Multiplexer.find?,Routes.ingress?] at ih ⊢
    rw [List.find?_cons,List.lookup_cons,plainly p]
    cases path == p with
    | true => rfl
    | false => exact ih

theorem counterpartLine {path : Text} (line : newLine ∉ path) :
    newLine ∉ Multiplexer.counterpart path := by
  unfold Multiplexer.counterpart
  split
  · intro member
    exact line (trimEndAmong member)
  · intro member
    obtain inside | slash := List.mem_append.mp member
    · exact line inside
    · exact absurd slash (by decide)

end Paths

namespace Backend

structure Seen where
  status : Except Failure (Option Nat)
  calls : List Deed

def seenOf (action : Action (Watched world) Status) (scene : Scene world) : Seen :=
  let (result,after) := action.perform ⟨scene.journal,⟨[],scene.world⟩⟩
  ⟨result.map fun status => some status.code,after.world.deeds⟩

def unwatched (inbound : Inbound world) : Inbound (Watched world) :=
  ⟨inbound.method,inbound.target,inbound.secret,Watched.unseen inbound.read⟩

structure Arrival (world : Type) where
  line : Text
  stream : Bytes
  loop : Inbound world
  multiplexed : Inbound world

def seen (routes : Routes world) (request : RequestLine) (arrival : Arrival world)
    (scene : Scene world) : Backend → Seen
  | .eventLoop => seenOf (EventLoop.serve routes.watched (unwatched arrival.loop)) scene
  | .multiplexer => seenOf (Multiplexer.serve routes.watched (unwatched arrival.multiplexed)) scene
  | .blocking =>
    let served := served routes arrival.line request arrival.stream scene
    ⟨served.response.map fun response => response.map Response.status,served.deeds⟩

section Bodies

def Reads (read : Action world Bytes) (ended : Except Failure Bytes) : Prop :=
  ∀ scene, match ended with
    | .ok body => read.perform scene = (.ok body,scene)
    | .error _ => ∃ failure, failure.kind.isOrdinary = true ∧
        read.perform scene = (.error failure,scene)

def given (ended : Except Failure Bytes) : Action world Bytes := Action.ofRun fun scene => (ended,scene)

variable {read : Action world Bytes} {ended : Except Failure Bytes}

theorem readsUnseen (reads : Reads read ended) : Reads (Watched.unseen read) ended := by
  intro scene
  have inner := reads ⟨scene.journal,scene.world.world⟩
  cases ended with
  | ok body =>
    simp only [Watched.unseen,Action.perform_within] at inner ⊢
    rw [inner]
  | error =>
    obtain ⟨failure,ordinary,same⟩ := inner
    refine ⟨failure,ordinary,?_⟩
    simp only [Watched.unseen,Action.perform_within]
    rw [same]

theorem readsWhole (reads : Reads read ended) : Reads (Multiplexer.readWhole read) ended := by
  intro scene
  have inner := reads scene
  cases ended with
  | ok body => simp [Multiplexer.readWhole,Action.perform_bind,inner]
  | error =>
    obtain ⟨failure,_,same⟩ := inner
    refine ⟨.raised .connection [],rfl,?_⟩
    simp [Multiplexer.readWhole,Action.perform_bind,same]

theorem processReads (ingress : Ingress world) (method : Text) (header : Option Text)
    (reads : Reads read ended) (ordinary : ∀ failure, ended = .error failure →
      failure.kind.isOrdinary = true) (scene : Scene world) :
    let run := (ingress.process method header read).perform scene
    let other := (ingress.process method header (given ended)).perform scene
    run.1 = other.1 ∧ run.2.world = other.2.world := by
  simp only [Ingress.process]
  cases Ingress.accepts method with
  | false => exact ⟨rfl,rfl⟩
  | true =>
    cases Ingress.authenticate ingress.secret header with
    | error => exact ⟨rfl,rfl⟩
    | ok =>
      have inner := reads scene
      have handed : (given ended).perform scene = (ended,scene) := rfl
      simp only [if_true,Action.perform_bind,Action.perform_outcome]
      rw [handed]
      cases ended with
      | ok body =>
        rw [inner]
        exact ⟨rfl,rfl⟩
      | error known =>
        obtain ⟨failure,usual,same⟩ := inner
        rw [same]
        simp only [usual,ordinary known rfl,if_true,Ingress.reject,Action.perform_bind,
          Action.perform_note,Action.perform_pure]
        trivial

end Bodies

section Requests
variable (made : Routes.Registrations world) (request : RequestLine) (fields : Fields)
  (rest : Bytes) (scene : Scene world)

def due (ingress : Ingress world) : Seen :=
  seenOf ((Watched.serving ingress).process request.method (fields.get? secretHeader)
    (given (readBody fields rest).1)) scene

structure Alike (seen : Backend → Seen) : Prop where
  unknown : Routes.lastFor made (pathOf request.target) = none →
    ∀ backend, seen backend = ⟨.ok (some 404),[]⟩
  known : ∀ ingress, Routes.lastFor made (pathOf request.target) = some ingress →
    ∀ backend, seen backend = due request fields rest scene ingress
  other : (Routes.lastFor made (pathOf request.target)).isSome → request.method ≠ "POST" →
    ∀ backend, seen backend = ⟨.ok (some 405),[]⟩

def Redirected : Prop :=
  pathOf request.target ≠ "/" ∧ Routes.lastFor made (pathOf request.target) = none ∧
    (Routes.lastFor made (Multiplexer.counterpart (pathOf request.target))).isSome

def Unread : Prop :=
  ∀ ingress, Routes.lastFor made (pathOf request.target) = some ingress →
    Ingress.accepts request.method = true →
      Ingress.authenticate ingress.secret (fields.get? secretHeader) = .error .secretMismatch

structure Level : Prop where
  routed : isRouted request.method = true
  direct : ¬Redirected made request
  droppable : Unread made request fields → Droppable fields

structure Hands (inbound : Inbound world) : Prop where
  method : inbound.method = request.method
  target : inbound.target = request.target
  secret : inbound.secret = fields.get? secretHeader
  read : Reads inbound.read (readBody fields rest).1

structure Arrives (arrival : Arrival world) (raw : Bytes) : Prop where
  head : readSection maxHeaderLines arrival.stream = (.ok raw,rest)
  loop : Hands request (ofSection raw) rest arrival.loop
  multiplexed : Hands request (ofSection raw) rest arrival.multiplexed

def expected : Seen :=
  match Routes.lastFor made (pathOf request.target) with
  | none => ⟨.ok (some 404),[]⟩
  | some ingress => due request fields rest scene ingress

end Requests

section Dues
variable {request : RequestLine} {fields : Fields} {rest : Bytes} {scene : Scene world}
  {ingress : Ingress world}

theorem dueOther (other : Ingress.accepts request.method = false) :
    due request fields rest scene ingress = ⟨.ok (some 405),[]⟩ := by
  simp [due,seenOf,Ingress.process,other,Except.map,Status.code]

theorem dueRefused (posted : Ingress.accepts request.method = true)
    (refused : Ingress.authenticate ingress.secret (fields.get? secretHeader) =
      .error .secretMismatch) :
    due request fields rest scene ingress = ⟨.ok (some 401),[]⟩ := by
  simp [due,seenOf,Ingress.process,Watched.serving,posted,refused,Ingress.reject,
    Except.map,Status.code]

theorem dueUnencodable {found : Utf8.LoneSurrogates} (posted : Ingress.accepts request.method = true)
    (refused : Ingress.authenticate ingress.secret (fields.get? secretHeader) =
      .error (.unencodable found)) :
    due request fields rest scene ingress = ⟨.error (.unencodable found),[]⟩ := by
  simp [due,seenOf,Ingress.process,Watched.serving,posted,refused,Ingress.reject,
    Except.map]

theorem dueUnreadable {failure : Failure} (posted : Ingress.accepts request.method = true)
    (passed : Ingress.authenticate ingress.secret (fields.get? secretHeader) = .ok ())
    (failed : (readBody fields rest).1 = .error failure) :
    due request fields rest scene ingress = ⟨.ok (some 500),[]⟩ := by
  have handed : ∀ scene : Scene (Watched world),
      (given (.error failure)).perform scene = (.error failure,scene) := fun _ => rfl
  simp [due,seenOf,Ingress.process,Watched.serving,posted,passed,failed,handed,
    Action.perform_bind,bodyFails failed,Ingress.reject,Except.map,Status.code]

theorem dueHandled {body : Bytes} (posted : Ingress.accepts request.method = true)
    (passed : Ingress.authenticate ingress.secret (fields.get? secretHeader) = .ok ())
    (read : (readBody fields rest).1 = .ok body) :
    let ending := ((Watched.calling ingress.handler).runBlocking body).perform
      ⟨scene.journal,⟨[],scene.world⟩⟩
    due request fields rest scene ingress =
      ⟨(Ingress.answer ending.1).map fun status => some status.code,ending.2.world.deeds⟩ := by
  have handed : ∀ scene : Scene (Watched world),
      (given (.ok body)).perform scene = (.ok body,scene) := fun _ => rfl
  simp only [due,seenOf,Ingress.process,Watched.serving,posted,passed,if_true,read,
    Action.perform_bind,Action.perform_outcome,handed]
  rw [(Ingress.dispatchAnswers _ body _).1,(Ingress.dispatchAnswers _ body _).2]

end Dues

section Serving
variable {made : Routes.Registrations world} {request : RequestLine} {raw rest : Bytes}
  (scene : Scene world) {arrival : Arrival world}

theorem unknownWatched {path : Text} (unknown : Routes.lastFor made path = none) :
    (Routes.table made).watched.ingress? path = none := by
  rw [Routes.watchedIngress,Routes.tableLast,unknown]
  rfl

theorem knownWatched {path : Text} {ingress : Ingress world}
    (known : Routes.lastFor made path = some ingress) :
    (Routes.table made).watched.ingress? path = some (Watched.serving ingress) := by
  rw [Routes.watchedIngress,Routes.tableLast,known]
  rfl

theorem handedDue {fields : Fields} (ingress : Ingress world) {inbound : Inbound world}
    {read : Action (Watched world) Bytes} (hands : Hands request fields rest inbound)
    (reads : Reads read (readBody fields rest).1) :
    seenOf ((Watched.serving ingress).processWaiting inbound.method inbound.secret read) scene =
      due request fields rest scene ingress := by
  obtain ⟨result,world⟩ := processReads (Watched.serving ingress) request.method
    (fields.get? secretHeader) reads (fun _ failed => bodyFails failed)
    ⟨scene.journal,⟨[],scene.world⟩⟩
  rw [Ingress.processWaitingAlike,hands.method,hands.secret,due,seenOf,seenOf]
  dsimp only
  rw [result,world]

theorem loopSeen (arrives : Arrives request rest arrival raw)
    (literal : Literal (pathOf request.target)) :
    seen (Routes.table made) request arrival scene .eventLoop =
      expected made request (ofSection raw) rest scene := by
  have path : EventLoop.routePath arrival.loop.target = pathOf request.target := by
    rw [arrives.loop.target,routeLiteral literal]
  rw [seen,EventLoop.serve,unwatched,path,expected]
  cases last : Routes.lastFor made (pathOf request.target) with
  | none =>
    rw [unknownWatched last]
    rfl
  | some ingress =>
    rw [knownWatched last]
    exact handedDue scene ingress arrives.loop (readsUnseen arrives.loop.read)

theorem multiplexerSeen (arrives : Arrives request rest arrival raw)
    (literal : Literal (pathOf request.target)) (routed : isRouted request.method = true)
    (direct : ¬Redirected made request) :
    seen (Routes.table made) request arrival scene .multiplexer =
      expected made request (ofSection raw) rest scene := by
  have target := arrives.multiplexed.target
  have method := arrives.multiplexed.method
  rw [seen,Multiplexer.serve,unwatched,target,findExact _ literal.line,
    findExact _ (counterpartLine literal.line),expected]
  cases last : Routes.lastFor made (pathOf request.target) with
  | none =>
    have unregistered : (pathOf request.target == "/") = false →
        (Routes.table made).watched.ingress? (Multiplexer.counterpart (pathOf request.target)) =
          none := by
      intro deeper
      apply unknownWatched
      cases other : Routes.lastFor made (Multiplexer.counterpart (pathOf request.target)) with
      | none => rfl
      | some ingress =>
        exact absurd ⟨beq_eq_false_iff_ne.mp deeper,last,by simp [other]⟩ direct
    rw [unknownWatched last]
    cases root : pathOf request.target == "/" with
    | true => rfl
    | false =>
      rw [unregistered root]
      rfl
  | some ingress =>
    rw [knownWatched last]
    dsimp only
    rw [method,routed,if_pos rfl]
    have reads := readsWhole (readsUnseen arrives.multiplexed.read)
    have same := handedDue scene ingress arrives.multiplexed reads
    rw [method] at same
    exact same

theorem blockingUnread {status : Status} {after : Scene (Connection (Watched world))}
    (head : readSection maxHeaderLines arrival.stream = (.ok raw,rest))
    (routed : isRouted request.method = true)
    (ends : (statusOf (Routes.table made).watched request (ofSection raw)).perform
      (atBody rest scene) = (.ok status,after)) (kept : after.world = opened rest ⟨[],scene.world⟩) :
    seen (Routes.table made) request arrival scene .blocking =
      ⟨(discardBody (ofSection raw) rest).1.map fun _ => some status.code,[]⟩ := by
  rw [seen,servedUnread arrival.line routed head ends kept]
  cases (discardBody (ofSection raw) rest).1 with
  | error => rfl
  | ok => rfl

theorem unreadSettled (rest : Bytes) (unread : Unread made request (ofSection raw)) :
    ∃ status after, (statusOf (Routes.table made).watched request (ofSection raw)).perform
        (atBody rest scene) = (.ok status,after) ∧
      after.world = opened rest ⟨[],scene.world⟩ ∧
      expected made request (ofSection raw) rest scene = ⟨.ok (some status.code),[]⟩ := by
  rw [expected]
  cases last : Routes.lastFor made (pathOf request.target) with
  | none =>
    refine ⟨.notFound,atBody rest scene,?_,rfl,rfl⟩
    simp [statusOf,unknownWatched last]
  | some ingress =>
    rw [leftTo ((Routes.tableLast made _).trans last) (ofSection raw)]
    cases posted : Ingress.accepts request.method with
    | false =>
      exact ⟨_,_,proceedOther (Watched.serving ingress) (ofSection raw) (atBody rest scene) posted,
        rfl,dueOther posted⟩
    | true =>
      have refused := unread ingress last posted
      obtain ⟨status,world⟩ := proceedRefused (Watched.serving ingress) (ofSection raw)
        (atBody rest scene) posted refused
      exact ⟨_,_,Prod.ext status rfl,world,dueRefused posted refused⟩

theorem blockingSettled (head : readSection maxHeaderLines arrival.stream = (.ok raw,rest))
    (routed : isRouted request.method = true) {ingress : Ingress world}
    (last : Routes.lastFor made (pathOf request.target) = some ingress)
    (posted : Ingress.accepts request.method = true)
    (met : Ingress.authenticate ingress.secret ((ofSection raw).get? secretHeader) ≠
      .error .secretMismatch) :
    seen (Routes.table made) request arrival scene .blocking =
      due request (ofSection raw) rest scene ingress := by
  have found := (Routes.tableLast made _).trans last
  rw [seen]
  obtain passed | refused | ⟨text,escaped⟩ :=
    Ingress.authenticateCases ingress.secret ((ofSection raw).get? secretHeader)
  · cases taken : (readBody (ofSection raw) rest).1 with
    | error failure =>
      rw [servedUnreadable arrival.line found routed head posted passed taken,
        dueUnreadable posted passed taken]
      rfl
    | ok body =>
      rw [servedHandled arrival.line found routed head posted passed taken,
        dueHandled posted passed taken]
      cases Ingress.answer (((Watched.calling ingress.handler).runBlocking body).perform
          ⟨scene.journal,⟨[],scene.world⟩⟩).1 with
      | error => rfl
      | ok => rfl
  · exact absurd refused met
  · rw [servedUnencodable arrival.line found routed head posted escaped,
      dueUnencodable posted escaped]
    rfl

theorem blockingUnrouted (made : Routes.Registrations world)
    (head : readSection maxHeaderLines arrival.stream = (.ok raw,rest))
    (unrouted : isRouted request.method = false) :
    (seen (Routes.table made) request arrival scene .blocking).status = .ok (some 501) := by
  simp [seen,served,answer,opened,Action.perform_bind,head,unrouted,refuse,noteRequest,Except.map]

theorem dueStatus (fields : Fields) (ingress : Ingress world) :
    (due request fields rest scene ingress).status ≠ .ok (some 501) := by
  rw [due,seenOf]
  dsimp only
  rcases (((Watched.serving ingress).process request.method (fields.get? secretHeader)
    (given (readBody fields rest).1)).perform ⟨scene.journal,⟨[],scene.world⟩⟩).1 with _ | status
  · nofun
  · cases status <;> simp [Except.map,Status.code]

theorem redirects (arrives : Arrives request rest arrival raw)
    (literal : Literal (pathOf request.target)) (redirected : Redirected made request) :
    seen (Routes.table made) request arrival scene .multiplexer = ⟨.ok (some 307),[]⟩ := by
  obtain ⟨deeper,last,other⟩ := redirected
  obtain ⟨ingress,other⟩ := Option.isSome_iff_exists.mp other
  rw [seen,Multiplexer.serve,unwatched,arrives.multiplexed.target,findExact _ literal.line,
    findExact _ (counterpartLine literal.line),unknownWatched last,knownWatched other,
    beq_false_of_ne deeper]
  rfl

theorem allExpected (arrives : Arrives request rest arrival raw)
    (literal : Literal (pathOf request.target)) (level : Level made request (ofSection raw)) :
    ∀ backend, seen (Routes.table made) request arrival scene backend =
      expected made request (ofSection raw) rest scene := by
  intro backend
  cases backend with
  | eventLoop => exact loopSeen scene arrives literal
  | multiplexer => exact multiplexerSeen scene arrives literal level.routed level.direct
  | blocking =>
    by_cases unread : Unread made request (ofSection raw)
    · obtain ⟨status,after,ends,kept,due⟩ := unreadSettled scene rest unread
      obtain ⟨note,dropped⟩ := (dropEnds rest).mpr (level.droppable unread)
      rw [blockingUnread scene arrives.head level.routed ends kept,due,dropped]
      rfl
    · simp only [Unread,not_forall] at unread
      obtain ⟨ingress,last,posted,met⟩ := unread
      rw [blockingSettled scene arrives.head level.routed last posted met,expected,last]

theorem otherMethod {method : Text} (routed : isRouted method = true) (other : method ≠ "POST") :
    Ingress.accepts method = false := by
  simp only [isRouted,routedMethods,List.any_cons,List.any_nil,Bool.or_false,Bool.or_eq_true,
    beq_iff_eq] at routed
  obtain rfl | rfl | rfl | rfl | rfl | rfl | rfl := routed
  · exact absurd rfl other
  all_goals decide

theorem alikeExactly (made : Routes.Registrations world) {request : RequestLine}
    (literal : Literal (pathOf request.target)) {raw rest : Bytes} {arrival : Arrival world}
    (arrives : Arrives request rest arrival raw) (scene : Scene world) :
    (∀ (backend : Backend) (before : Scene world),
      ((Routes.registerAll backend.name made).perform before).1 = .ok (Routes.table made)) ∧
    (Alike made request (ofSection raw) rest scene
        (seen (Routes.table made) request arrival scene) ↔
      Level made request (ofSection raw)) := by
  refine ⟨fun backend => Routes.registerAllTable backend.name made,fun alike => ?_,fun level => ?_⟩
  · have same : seen (Routes.table made) request arrival scene .blocking =
        expected made request (ofSection raw) rest scene := by
      rw [expected]
      cases last : Routes.lastFor made (pathOf request.target) with
      | none => exact alike.unknown last .blocking
      | some ingress => exact alike.known ingress last .blocking
    -- Another method is answered 501, which no ingress returns.
    have routed : isRouted request.method = true := by
      by_contra unrouted
      have status := blockingUnrouted scene made arrives.head (by simpa using unrouted)
      rw [same,expected] at status
      cases last : Routes.lastFor made (pathOf request.target) with
      | none =>
        rw [last] at status
        cases status
      | some ingress =>
        rw [last] at status
        exact dueStatus scene _ ingress status
    refine ⟨routed,fun redirected => ?_,fun unread => ?_⟩
    · have found := alike.unknown redirected.2.1 .multiplexer
      rw [redirects scene arrives literal redirected] at found
      cases found
    · obtain ⟨status,after,ends,kept,due⟩ := unreadSettled scene rest unread
      rw [blockingUnread scene arrives.head routed ends kept,due] at same
      rw [← dropEnds rest]
      cases dropped : (discardBody (ofSection raw) rest).1 with
      | ok note => exact ⟨note,rfl⟩
      | error failure =>
        rw [dropped] at same
        cases same
  · have all := allExpected scene arrives literal level
    constructor
    · intro unknown backend
      rw [all,expected,unknown]
    · intro ingress known backend
      rw [all,expected,known]
    · intro registered other backend
      obtain ⟨ingress,known⟩ := Option.isSome_iff_exists.mp registered
      rw [all,expected,known]
      exact dueOther (otherMethod level.routed other)

end Serving

def silentIngress : Ingress Unit := ⟨Handler.direct fun _ => return,none⟩

def letterMade : Routes.Registrations Unit :=
  [("/bot",silentIngress),("/other",silentIngress),("/bot",Ingress.letterIngress)]

def letterInbound : Inbound Unit := ⟨"POST","/bot?x",some "s",return ascii "ab"⟩

def letterArrival : Arrival Unit :=
  ⟨"POST /bot?x HTTP/1.1",letterSection ++ ascii "ab",letterInbound,letterInbound⟩

theorem letterAlike : Literal (pathOf "/bot?x") ∧
    Arrives ⟨"POST","/bot?x","HTTP/1.1"⟩ (ascii "ab") letterArrival letterSection ∧
    Alike letterMade ⟨"POST","/bot?x","HTTP/1.1"⟩ (ofSection letterSection) (ascii "ab") ⟨.empty,()⟩
      (seen (Routes.table letterMade) ⟨"POST","/bot?x","HTTP/1.1"⟩ letterArrival ⟨.empty,()⟩) := by
  have literal : Literal (pathOf "/bot?x") := by
    constructor <;> decide
  have hands : Hands ⟨"POST","/bot?x","HTTP/1.1"⟩ (ofSection letterSection) (ascii "ab")
      letterInbound := ⟨rfl,rfl,rfl,fun _ => rfl⟩
  have arrives : Arrives ⟨"POST","/bot?x","HTTP/1.1"⟩ (ascii "ab") letterArrival letterSection :=
    ⟨rfl,hands,hands⟩
  have level : Level letterMade ⟨"POST","/bot?x","HTTP/1.1"⟩ (ofSection letterSection) := by
    constructor
    · decide
    · intro redirected
      exact absurd redirected.2.1 (by decide)
    · intro unread
      have admitted : Ingress.authenticate Ingress.letterIngress.secret
          ((ofSection letterSection).get? secretHeader) = .ok () := rfl
      have refused := unread Ingress.letterIngress rfl (by decide)
      rw [admitted] at refused
      cases refused
  exact ⟨literal,arrives,(alikeExactly letterMade literal arrives _).2.mpr level⟩

def traceArrival : Arrival Unit :=
  ⟨"TRACE /bot HTTP/1.1",ascii "\r\n",⟨"TRACE","/bot",none,return []⟩,
    ⟨"TRACE","/bot",none,return []⟩⟩

theorem traceDiffers : Literal (pathOf "/bot") ∧
    Arrives ⟨"TRACE","/bot","HTTP/1.1"⟩ [] traceArrival (ascii "\r\n") ∧
    ¬Alike [("/bot",silentIngress)] ⟨"TRACE","/bot","HTTP/1.1"⟩ (ofSection (ascii "\r\n")) []
      ⟨.empty,()⟩ (seen (Routes.table [("/bot",silentIngress)]) ⟨"TRACE","/bot","HTTP/1.1"⟩
        traceArrival ⟨.empty,()⟩) := by
  have literal : Literal (pathOf "/bot") := by
    constructor <;> decide
  have hands : Hands ⟨"TRACE","/bot","HTTP/1.1"⟩ (ofSection (ascii "\r\n")) []
      traceArrival.loop := ⟨rfl,rfl,rfl,fun _ => rfl⟩
  have head : readSection maxHeaderLines traceArrival.stream = (.ok (ascii "\r\n"),[]) := rfl
  refine ⟨literal,⟨head,hands,hands⟩,fun alike => ?_⟩
  have answered : (seen (Routes.table [("/bot",silentIngress)]) ⟨"TRACE","/bot","HTTP/1.1"⟩
      traceArrival ⟨.empty,()⟩ .blocking).status = .ok (some 501) :=
    blockingUnrouted ⟨.empty,()⟩ _ head (by decide)
  rw [alike.other rfl (by decide) .blocking] at answered
  cases answered

end Backend
end BotGateway
