import BotGateway.Proofs.Http.Body
import BotGateway.Proofs.Http.Fields
import BotGateway.Proofs.Webhook.Ingress
import BotGateway.Proofs.Webhook.Routes

/-! One request on a connection, from its header section to what is written back. A response is
written exactly where the secret of the route can be compared with what is given and the body, if
nobody asked for it, can be dropped. -/
namespace BotGateway.Http.Connection
variable {world : Type}

def opened (stream : Bytes) (behind : world) : Connection world := ⟨stream,false,behind⟩

def proceed (ingress : Ingress world) (request : RequestLine) (fields : Fields) :
    Action (Connection world) Status :=
  (ingress.within Connection.behind fun behind c => ⟨c.stream,c.bodyRead,behind⟩).process
    request.method (fields.get? secretHeader) (takeBody fields)

def written (request : RequestLine) (status : Status) : Response :=
  ⟨status.code,request.version != bareVersion,true⟩

section Reading
variable (fields : Fields) (scene : Scene (Connection world))

theorem takenBody : (takeBody fields).perform scene =
    ((readBody fields scene.world.stream).1,
      ⟨scene.journal,⟨(readBody fields scene.world.stream).2,true,scene.world.behind⟩⟩) := by
  simp only [takeBody,Action.perform_bind,Action.perform_current,Action.perform_change]
  cases (readBody fields scene.world.stream).1 <;> rfl

end Reading

section Ways
variable (ingress : Ingress world) {request : RequestLine} (fields : Fields)
  (scene : Scene (Connection world))

theorem proceedOther (other : Ingress.accepts request.method = false) :
    (proceed ingress request fields).perform scene = (.ok .methodNotAllowed,scene) := by
  simp [proceed,Ingress.process,other]

theorem proceedRefused (posted : Ingress.accepts request.method = true)
    (refused : Ingress.authenticate ingress.secret (fields.get? secretHeader) = .error .secretMismatch) :
    ((proceed ingress request fields).perform scene).1 = .ok .unauthorized ∧
    ((proceed ingress request fields).perform scene).2.world = scene.world := by
  simp [proceed,Ingress.process,Ingress.within,posted,refused,Ingress.reject,
    Except.map]

theorem proceedUnencodable {found : Utf8.LoneSurrogates}
    (posted : Ingress.accepts request.method = true)
    (refused : Ingress.authenticate ingress.secret (fields.get? secretHeader) =
      .error (.unencodable found)) :
    (proceed ingress request fields).perform scene = (.error (.unencodable found),scene) := by
  simp [proceed,Ingress.process,Ingress.within,posted,refused,Ingress.reject]

theorem proceedUnread {failure : Failure} (posted : Ingress.accepts request.method = true)
    (passed : Ingress.authenticate ingress.secret (fields.get? secretHeader) = .ok ())
    (failed : (readBody fields scene.world.stream).1 = .error failure) :
    ((proceed ingress request fields).perform scene).1 = .ok .serverError ∧
    ((proceed ingress request fields).perform scene).2.world =
      ⟨(readBody fields scene.world.stream).2,true,scene.world.behind⟩ := by
  have ordinary := bodyFails failed
  simp [proceed,Ingress.process,Ingress.within,posted,passed,Action.perform_bind,
    takenBody,failed,ordinary,Ingress.reject,Except.map]

theorem proceedHandled {body : Bytes} (posted : Ingress.accepts request.method = true)
    (passed : Ingress.authenticate ingress.secret (fields.get? secretHeader) = .ok ())
    (read : (readBody fields scene.world.stream).1 = .ok body) :
    let ending := (ingress.handler.runBlocking body).perform ⟨scene.journal,scene.world.behind⟩
    ((proceed ingress request fields).perform scene).1 = Ingress.answer ending.1 ∧
    ((proceed ingress request fields).perform scene).2.world =
      ⟨(readBody fields scene.world.stream).2,true,ending.2.world⟩ := by
  have ran := ingress.handler.withinRuns Connection.behind
    (fun behind c => ⟨c.stream,c.bodyRead,behind⟩) (fun _ _ => rfl) (fun _ _ _ => rfl) body
  simp only [proceed,Ingress.process,Ingress.within,posted,passed,if_true,
    Action.perform_bind,Action.perform_outcome,takenBody,read]
  rw [(Ingress.dispatchAnswers _ body _).1,(Ingress.dispatchAnswers _ body _).2,ran,
    Action.perform_within]
  exact ⟨rfl,rfl⟩

end Ways

section Responding
variable (line : Text) (request : RequestLine) (fields : Fields) (status : Status)
  {scene : Scene (Connection world)}

theorem respondRead (read : scene.world.bodyRead = true) :
    ((respond line request fields status).perform scene).1 = .ok (some (written request status)) ∧
    ((respond line request fields status).perform scene).2.world = scene.world := by
  simp [respond,dropBody,Action.perform_bind,read,noteRequest,written,Except.map]

theorem respondUnread (unread : scene.world.bodyRead = false) :
    ((respond line request fields status).perform scene).1 =
      (discardBody fields scene.world.stream).1.map (fun _ => some (written request status)) ∧
    ((respond line request fields status).perform scene).2.world.behind = scene.world.behind := by
  simp only [respond,dropBody,Action.perform_bind,Action.perform_current,unread,Bool.false_eq_true,
    if_false,Action.perform_change]
  rcases (discardBody fields scene.world.stream).1 with failure | _ | note
  · exact ⟨rfl,rfl⟩
  · exact ⟨rfl,rfl⟩
  · exact ⟨rfl,rfl⟩

theorem answerSection {routes : Routes world} {raw rest : Bytes} {request : RequestLine}
    (routed : isRouted request.method = true)
    (read : readSection maxHeaderLines scene.world.stream = (.ok raw,rest)) :
    (answer routes line request).perform scene =
      (statusOf routes request (ofSection raw) >>= respond line request (ofSection raw)).perform
        ⟨scene.journal,⟨rest,scene.world.bodyRead,scene.world.behind⟩⟩ := by
  simp only [answer,Action.perform_bind,Action.perform_current,read,Action.perform_change,routed,
    if_true]

end Responding

structure Served where
  response : Except Failure (Option Response)
  deeds : List Deed

def served (routes : Routes world) (line : Text) (request : RequestLine) (stream : Bytes)
    (scene : Scene world) : Served :=
  let (response,after) := (answer routes.watched line request).perform
    ⟨scene.journal,opened stream ⟨[],scene.world⟩⟩
  ⟨response,after.world.behind.deeds⟩

section Requests
variable (routes : Routes world) (request : RequestLine) (fields : Fields) (body : Bytes)
  (scene : Scene world)

inductive Due : Status → Prop where
  | unknown (none : routes.ingress? (pathOf request.target) = none) : Due .notFound
  | known {ingress : Ingress world} {status : Status}
      (found : routes.ingress? (pathOf request.target) = some ingress)
      (returned : ((proceed ingress request fields).perform
        ⟨scene.journal,opened body scene.world⟩).1 = .ok status) : Due status

structure Answered (served : Served) : Prop where
  response : ∃ status, Due routes request fields body scene status ∧
    served.response = .ok (some (written request status))
  untouched : routes.ingress? (pathOf request.target) = none → served.deeds = []
  whole : ∀ given, .calls given ∈ served.deeds → ∃ rest, Framed fields body given rest

def Admits : Prop :=
  ∃ ingress, routes.ingress? (pathOf request.target) = some ingress ∧
    Ingress.accepts request.method = true ∧
    Ingress.authenticate ingress.secret (fields.get? secretHeader) = .ok ()

structure Answerable : Prop where
  comparable : ∀ ingress secret, routes.ingress? (pathOf request.target) = some ingress →
    Ingress.accepts request.method = true → ingress.secret = some secret →
      (fields.get? secretHeader).isSome → Utf8.Encodable secret
  droppable : ¬Admits routes request fields → Droppable fields

end Requests

section Served
variable {routes : Routes world} (line : Text) {request : RequestLine} {fields : Fields}
  {stream raw rest : Bytes} {scene : Scene world} {status : Status}
  {after : Scene (Connection (Watched world))}

def atBody (rest : Bytes) (scene : Scene world) : Scene (Connection (Watched world)) :=
  ⟨scene.journal,opened rest ⟨[],scene.world⟩⟩

theorem servedSection (routed : isRouted request.method = true)
    (read : readSection maxHeaderLines stream = (.ok raw,rest)) :
    served routes line request stream scene =
      let ending := (statusOf routes.watched request (ofSection raw) >>=
        respond line request (ofSection raw)).perform (atBody rest scene)
      ⟨ending.1,ending.2.world.behind.deeds⟩ := by
  rw [served,answerSection line routed read]
  rfl

theorem servedFailed {failure : Failure} (routed : isRouted request.method = true)
    (read : readSection maxHeaderLines stream = (.ok raw,rest))
    (ends : (statusOf routes.watched request (ofSection raw)).perform (atBody rest scene) =
      (.error failure,after)) :
    served routes line request stream scene = ⟨.error failure,after.world.behind.deeds⟩ := by
  rw [servedSection line routed read,Action.perform_bind,ends]

theorem servedUnread (routed : isRouted request.method = true)
    (read : readSection maxHeaderLines stream = (.ok raw,rest))
    (ends : (statusOf routes.watched request (ofSection raw)).perform (atBody rest scene) =
      (.ok status,after)) (kept : after.world = opened rest ⟨[],scene.world⟩) :
    served routes line request stream scene =
      ⟨(discardBody (ofSection raw) rest).1.map fun _ => some (written request status),[]⟩ := by
  have unread : after.world.bodyRead = false := by rw [kept]; rfl
  obtain ⟨response,behind⟩ := respondUnread line request (ofSection raw) status unread
  rw [servedSection line routed read,Action.perform_bind,ends]
  dsimp only
  rw [response,behind,kept]
  rfl

theorem servedRead (routed : isRouted request.method = true)
    (read : readSection maxHeaderLines stream = (.ok raw,rest))
    (ends : (statusOf routes.watched request (ofSection raw)).perform (atBody rest scene) =
      (.ok status,after)) (taken : after.world.bodyRead = true) :
    served routes line request stream scene =
      ⟨.ok (some (written request status)),after.world.behind.deeds⟩ := by
  obtain ⟨response,same⟩ := respondRead line request (ofSection raw) status taken
  rw [servedSection line routed read,Action.perform_bind,ends]
  dsimp only
  rw [response,same]

section Admitted
variable {ingress : Ingress world} (found : routes.ingress? (pathOf request.target) = some ingress)
  (routed : isRouted request.method = true)
  (read : readSection maxHeaderLines stream = (.ok raw,rest))
  (posted : Ingress.accepts request.method = true)
include found

theorem leftTo (fields : Fields) :
    statusOf routes.watched request fields = proceed (Watched.serving ingress) request fields := by
  simp only [statusOf,Routes.watchedIngress,found,Option.map_some]
  rfl

include routed read posted

theorem servedUnencodable {text : Utf8.LoneSurrogates}
    (failed : Ingress.authenticate ingress.secret ((ofSection raw).get? secretHeader) =
      .error (.unencodable text)) :
    served routes line request stream scene = ⟨.error (.unencodable text),[]⟩ := by
  have ends := proceedUnencodable (Watched.serving ingress) (ofSection raw) (atBody rest scene)
    posted failed
  rw [← leftTo found] at ends
  exact servedFailed line routed read ends

variable (passed : Ingress.authenticate ingress.secret ((ofSection raw).get? secretHeader) = .ok ())
include passed

theorem servedUnreadable {failure : Failure}
    (failed : (readBody (ofSection raw) rest).1 = .error failure) :
    served routes line request stream scene = ⟨.ok (some (written request .serverError)),[]⟩ := by
  obtain ⟨ended,world⟩ := proceedUnread (Watched.serving ingress) (ofSection raw)
    (atBody rest scene) posted passed failed
  rw [← leftTo found] at ended world
  rw [servedRead line routed read (Prod.ext ended rfl) (by rw [world]),world]
  rfl

theorem servedHandled {body : Bytes} (taken : (readBody (ofSection raw) rest).1 = .ok body) :
    let ending := ((Watched.calling ingress.handler).runBlocking body).perform
      ⟨scene.journal,⟨[],scene.world⟩⟩
    served routes line request stream scene =
      ⟨(Ingress.answer ending.1).map fun status => some (written request status),
        ending.2.world.deeds⟩ := by
  obtain ⟨ended,world⟩ := proceedHandled (Watched.serving ingress) (ofSection raw)
    (atBody rest scene) posted passed taken
  rw [← leftTo found] at ended world
  intro ending
  cases answer : Ingress.answer ending.1 with
  | error failure =>
    rw [servedFailed line routed read (Prod.ext (ended.trans answer) rfl),world]
    rfl
  | ok status =>
    rw [servedRead line routed read (Prod.ext (ended.trans answer) rfl) (by rw [world]),world]
    rfl

end Admitted

theorem unreadExactly (routed : isRouted request.method = true)
    (read : readSection maxHeaderLines stream = (.ok raw,rest))
    (ends : (statusOf routes.watched request (ofSection raw)).perform (atBody rest scene) =
      (.ok status,after)) (kept : after.world = opened rest ⟨[],scene.world⟩)
    (due : Due routes request (ofSection raw) rest scene status) :
    Answered routes request (ofSection raw) rest scene (served routes line request stream scene) ↔
      Droppable (ofSection raw) := by
  rw [servedUnread line routed read ends kept,← dropEnds rest]
  constructor
  · intro answered
    obtain ⟨other,_,same⟩ := answered.response
    cases dropped : (discardBody (ofSection raw) rest).1 with
    | ok note => exact ⟨note,rfl⟩
    | error failure =>
      rw [dropped] at same
      cases same
  · intro ⟨note,dropped⟩
    rw [dropped]
    exact ⟨⟨status,due,rfl⟩,fun _ => rfl,nofun⟩

theorem answerOrdinary {ended : Except Failure Unit}
    (ordinary : ∀ failure, ended = .error failure → failure.kind.isOrdinary = true) :
    ∃ status, Ingress.answer ended = .ok status := by
  cases ended with
  | ok => exact ⟨.ok,rfl⟩
  | error failure => exact ⟨.serverError,by rw [Ingress.answer,if_pos (ordinary failure rfl)]⟩

theorem admittedAnswered (ordinary : routes.Ordinary) (routed : isRouted request.method = true)
    (read : readSection maxHeaderLines stream = (.ok raw,rest))
    (admits : Admits routes request (ofSection raw)) :
    Answered routes request (ofSection raw) rest scene (served routes line request stream scene) := by
  obtain ⟨ingress,found,posted,passed⟩ := admits
  have known : routes.ingress? (pathOf request.target) ≠ none := by simp [found]
  let inner : Scene (Connection world) := ⟨scene.journal,opened rest scene.world⟩
  cases taken : (readBody (ofSection raw) rest).1 with
  | error failure =>
    rw [servedUnreadable line found routed read posted passed taken]
    have returned := (proceedUnread ingress (ofSection raw) inner posted passed taken).1
    exact ⟨⟨_,.known found returned,rfl⟩,fun none => absurd none known,nofun⟩
  | ok body =>
    have shown := (Watched.Shows.calling ingress.handler body
      ⟨scene.journal,⟨[],scene.world⟩⟩).1
    have noted := Watched.callingDeeds ingress.handler body ⟨scene.journal,⟨[],scene.world⟩⟩
    obtain ⟨due,answer⟩ := answerOrdinary (ordinary _ ingress found body ⟨scene.journal,scene.world⟩)
    have returned := (proceedHandled ingress (ofSection raw) inner posted passed taken).1.trans answer
    rw [servedHandled line found routed read posted passed taken,shown,noted]
    refine ⟨⟨due,.known found returned,?_⟩,fun none => absurd none known,fun given among => ?_⟩
    · exact congrArg (Except.map _) answer
    · obtain rfl : given = body := by simpa using among
      exact ⟨_,bodyFramed (Prod.ext taken rfl)⟩

theorem answerableUnread (closed : ¬Admits routes request fields)
    (comparable : ∀ ingress secret, routes.ingress? (pathOf request.target) = some ingress →
      Ingress.accepts request.method = true → ingress.secret = some secret →
        (fields.get? secretHeader).isSome → Utf8.Encodable secret) :
    Answerable routes request fields ↔ Droppable fields :=
  ⟨fun answerable => answerable.droppable closed,fun droppable => ⟨comparable,fun _ => droppable⟩⟩

theorem comparableSection {secret : Option Text} :
    Ingress.Comparable secret ((ofSection raw).get? secretHeader) ↔
      ∀ expected, secret = some expected → ((ofSection raw).get? secretHeader).isSome →
        Utf8.Encodable expected := by
  constructor
  · intro comparable expected same present
    obtain ⟨given,header⟩ := Option.isSome_iff_exists.mp present
    by_cases empty : expected = []
    · exact empty ▸ Utf8.encodableNil
    · exact (comparable expected given same empty header).1
  · intro encodable expected given same _ header
    exact ⟨encodable expected same (by simp [header]),sectionEncodable header⟩

theorem answeredExactly (routes : Routes world) (ordinary : routes.Ordinary) (line : Text)
    {request : RequestLine} (routed : isRouted request.method = true) {stream raw rest : Bytes}
    (read : readSection maxHeaderLines stream = (.ok raw,rest)) (scene : Scene world) :
    Answered routes request (ofSection raw) rest scene (served routes line request stream scene) ↔
      Answerable routes request (ofSection raw) := by
  let inner : Scene (Connection world) := ⟨scene.journal,opened rest scene.world⟩
  cases found : routes.ingress? (pathOf request.target) with
  | none =>
    have ends : (statusOf routes.watched request (ofSection raw)).perform (atBody rest scene) =
        (.ok .notFound,atBody rest scene) := by
      simp [statusOf,Routes.watchedIngress,found]
    rw [unreadExactly line routed read ends rfl (.unknown found),
      answerableUnread (by simp [Admits,found]) (by simp [found])]
  | some ingress =>
    have left := leftTo found (ofSection raw)
    cases posted : Ingress.accepts request.method with
    | false =>
      have ends := proceedOther (Watched.serving ingress) (ofSection raw)
        (atBody rest scene) posted
      rw [← left] at ends
      have due := congrArg Prod.fst (proceedOther ingress (ofSection raw) inner posted)
      rw [unreadExactly line routed read ends rfl (.known found due),
        answerableUnread (by simp [Admits,posted]) (by simp [posted])]
    | true =>
      have met := Ingress.authenticateMet ingress.secret ((ofSection raw).get? secretHeader)
      have secrets : Ingress.Comparable ingress.secret ((ofSection raw).get? secretHeader) ↔
          ∀ i secret, routes.ingress? (pathOf request.target) = some i →
            Ingress.accepts request.method = true → i.secret = some secret →
              ((ofSection raw).get? secretHeader).isSome → Utf8.Encodable secret := by
        rw [comparableSection]
        constructor
        · intro encodable other secret same _
          cases found.symm.trans same
          exact encodable secret
        · intro encodable secret
          exact encodable ingress secret found posted
      generalize ended : Ingress.authenticate ingress.secret
        ((ofSection raw).get? secretHeader) = result at met
      cases met with
      | admitted comparable free =>
        have admits : Admits routes request (ofSection raw) := ⟨ingress,found,posted,ended⟩
        exact iff_of_true (admittedAnswered line ordinary routed read admits)
          ⟨secrets.mp comparable,fun closed => absurd admits closed⟩
      | refused comparable refuses =>
        obtain ⟨status,world⟩ := proceedRefused (Watched.serving ingress) (ofSection raw)
          (atBody rest scene) posted ended
        rw [← left] at status world
        have due := (proceedRefused ingress (ofSection raw) inner posted ended).1
        rw [unreadExactly line routed read (Prod.ext status rfl) world (.known found due),
          answerableUnread (by simp [Admits,found,ended]) (secrets.mp comparable)]
      | unencodable text not =>
        refine iff_of_false (fun answered => ?_) fun answerable =>
          not (secrets.mpr answerable.comparable)
        obtain ⟨status,_,response⟩ := answered.response
        rw [servedUnencodable line found routed read posted ended] at response
        cases response

def letterRoutes : Routes Unit := [("/bot",Ingress.letterIngress)]

def letterSection : Bytes :=
  ascii "X-Telegram-Bot-Api-Secret-Token: s\r\nContent-Length: 2\r\n\r\n"

theorem letterAnswered : letterRoutes.Ordinary ∧ isRouted "POST" = true ∧
    readSection maxHeaderLines (letterSection ++ ascii "ab") = (.ok letterSection,ascii "ab") ∧
    Answered letterRoutes ⟨"POST","/bot?x","HTTP/1.1"⟩ (ofSection letterSection) (ascii "ab")
      ⟨.empty,()⟩ (served letterRoutes "POST /bot?x HTTP/1.1" ⟨"POST","/bot?x","HTTP/1.1"⟩
        (letterSection ++ ascii "ab") ⟨.empty,()⟩) := by
  have only : ∀ path ingress, letterRoutes.ingress? path = some ingress →
      ingress = Ingress.letterIngress := by
    intro path ingress found
    simp only [letterRoutes,Routes.ingress?,List.lookup_cons,List.lookup_nil] at found
    cases same : path == "/bot" <;> simp_all
  have ordinary : letterRoutes.Ordinary := by
    intro path ingress found body scene failure failed
    rw [only path ingress found] at failed
    cases failed
  have answerable : Answerable letterRoutes ⟨"POST","/bot?x","HTTP/1.1"⟩ (ofSection letterSection) := by
    constructor
    · intro ingress secret found _ same _
      rw [only _ ingress found] at same
      cases same
      exact Utf8.stringEncodable "s"
    · intro closed
      exact absurd ⟨Ingress.letterIngress,rfl,by decide,rfl⟩ closed
  exact ⟨ordinary,by decide,rfl,(answeredExactly letterRoutes ordinary _ (by decide) rfl _).mpr
    answerable⟩

def superscriptSection : Bytes := ascii "Content-Length: " ++ [0xB2] ++ ascii "\r\n\r\n"

theorem superscriptUnanswered : Routes.Ordinary ([] : Routes Unit) ∧ isRouted "POST" = true ∧
    readSection maxHeaderLines (superscriptSection ++ ascii "ab") =
      (.ok superscriptSection,ascii "ab") ∧
    ¬Answered ([] : Routes Unit) ⟨"POST","/none","HTTP/1.1"⟩ (ofSection superscriptSection)
      (ascii "ab") ⟨.empty,()⟩ (served [] "POST /none HTTP/1.1" ⟨"POST","/none","HTTP/1.1"⟩
        (superscriptSection ++ ascii "ab") ⟨.empty,()⟩) := by
  have ends : (served ([] : Routes Unit) "POST /none HTTP/1.1" ⟨"POST","/none","HTTP/1.1"⟩
      (superscriptSection ++ ascii "ab") ⟨.empty,()⟩).response =
        .error (.numeral 10 (Quoted.text [.ofNat 0xB2]) .invalid) := rfl
  refine ⟨nofun,by decide,rfl,fun answered => ?_⟩
  obtain ⟨status,_,response⟩ := answered.response
  rw [ends] at response
  cases response

end Served

end BotGateway.Http.Connection
