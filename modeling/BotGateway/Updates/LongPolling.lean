import BotGateway.Updates.Station

/-! Updates asked for again and again. The poller goes in small steps; whatever else happens at the
station happens between two of them. -/
namespace BotGateway

structure LongPolling where
  client : Client
  limit : Value
  timeout : Value
  allowed : Value
  interval : Value
  retry : Value

namespace LongPolling
variable {site : Type}

def defaultBuffer : Int := 100

def defaultTimeout : Value := .int 8

def defaultInterval : Value := .float (Binary64.zero false)

def defaultRetry : Value := .float (Binary64.ofInt 8)

def isNegative : Value → Except Failure Bool
  | .int n => .ok (n < 0)
  | .bool _ => .ok false
  | .float x => .ok (x.isNegative && !x.isZero)
  | other => .error (.unordered other.typeName)

def listed : Value → Except Failure Value
  | .null => .ok .null
  | .list items | .tuple items | .set items => .ok (.list items)
  | .text t => .ok (.list (t.map fun c => .text [c]))
  | .map entries => .ok (.list (entries.map (·.1)))
  | other => .error (.notIterable other.typeName)

def checked (polling : LongPolling) : Except Failure LongPolling := do
  if ← isNegative polling.interval then throw (.negativeInterval polling.interval.display)
  if ← isNegative polling.retry then throw (.negativeRetry polling.retry.display)
  return {polling with allowed := ← listed polling.allowed}

inductive Phase where
  | checking
  | asking
  | delivering (batch : List Value)
  | offering (update : Value) (batch : List Value)
  | over

/-- Waiting is counted in nanoseconds, which a signed word has to hold. -/
def waitLimit : Nat := 0x7FFFFFFFFFFFFE00

def canWait : Value → Bool
  | .int seconds => seconds * 1000000000 < waitLimit
  | .float (.finite _ mantissa exponent) =>
    let (n,d) := Binary64.magnitude mantissa exponent
    n * 1000000000 < d * waitLimit
  | .float (.infinite _) => false
  | _ => true

def pause (seconds : Value) : Phase := if canWait seconds then .checking else .over

structure Poller where
  offset : Int
  phase : Phase

def identifier (update : Value) : Int := (update.field "update_id").int?.getD 0

def batchOf : Value → List Value
  | .list updates => updates
  | _ => []

def ask (polling : LongPolling) (offset : Int) : Action Outside (List Value) := do
  let result ← polling.client.invoke Method.getUpdates
    [.int offset,polling.limit,polling.timeout,polling.allowed] []
  return batchOf result

def afterFailure (polling : LongPolling) (failure : Failure) : Action (Station site) Phase := do
  if failure.kind.isSdk then
    Action.note .error "Getting updates failed"
      [("error",.text failure.message),("error_type",.text failure.kind.name)]
    if polling.retry.isTruthy then
      Action.note .warning "Retrying getting updates" [("retry_in",polling.retry)]
      return pause polling.retry
    else return .over
  else return .over

def step (polling : LongPolling) (poller : Poller) : Action (Station site) Poller := do
  match poller.phase with
  | .checking =>
    let stopped := (← Action.current).queue.stopped
    return ⟨poller.offset,if stopped then .over else .asking⟩
  | .asking =>
    match ← Action.outcome (Station.onOutside (polling.ask poller.offset)) with
    | .ok batch => return ⟨poller.offset,.delivering batch⟩
    | .error failure => return ⟨poller.offset,← afterFailure polling failure⟩
  | .delivering [] => return ⟨poller.offset,pause polling.interval⟩
  | .delivering (update :: rest) =>
    if identifier update < poller.offset then return ⟨poller.offset,.delivering rest⟩
    else return ⟨identifier update + 1,.offering update rest⟩
  | .offering update rest =>
    let (found,queue) := (← Action.current).queue.offer update
    Station.changeQueue fun _ => queue
    match found with
    | .accepted => return ⟨poller.offset,.delivering rest⟩
    | .full => return poller
    | .refused => return ⟨poller.offset,.over⟩
  | .over => return poller

def finish (poller : Poller) : Action (Station site) Poller := do
  Station.changeQueue UpdateQueue.stop
  Action.note .info "Long polling stopped" [("offset",.int poller.offset)]
  return poller

def run (polling : LongPolling) (others : Action (Station site) Unit) :
    Nat → Poller → Action (Station site) Poller
  | 0, poller => return poller
  | steps + 1, poller =>
    match poller.phase with
    | .over => finish poller
    | _ => do
      let next ← step polling poller
      others
      run polling others steps next

def start (running : Bool) (offset : Int) : Action (Station site) Poller := do
  if running then throw .pollingStarted
  Action.note .info "Long polling started" [("offset",.int offset)]
  return ⟨offset,.checking⟩

end LongPolling
end BotGateway
