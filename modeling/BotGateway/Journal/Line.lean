import BotGateway.Journal.Event
import BotGateway.Journal.Timestamp

/-! Events as lines: one document for each, its standard members first, then its details, then what
went wrong. -/
namespace BotGateway.Event

def standardNames : List String := ["timestamp","level","logger","message","module","func_name"]

def isStandard (name : Text) : Bool := standardNames.any fun known => (known : Text) == name

def member (value : Value) : Except Failure Json :=
  match value.toJson true with
  | .ok json => .ok json
  | .error cause => .error (.unwritable cause)

def shownDetails (details : Details) : Details := details.filter fun (name,_) => !isStandard name

def detailMembers : Details → Except Failure (List (Text × Json))
  | [] => .ok []
  | (name,value) :: rest => do
    let json ← member value
    return (name,json) :: (← detailMembers rest)

def failureText (failure : Failure) : Text :=
  if failure.message.isEmpty then failure.kind.fullName
  else failure.kind.fullName ++ ": " ++ failure.message

def failureMembers : Option Failure → List (Text × Json)
  | none => []
  | some failure => [("exc_info",.text (failureText failure))]

def members (event : Event) : Except Failure (List (Text × Json)) := do
  let timestamp ← Timestamp.ofValue event.created
  let severity ← member event.severity
  let source ← member event.source
  let text ← event.text
  let place ← member event.place
  let function ← member event.function
  let details ← detailMembers (shownDetails event.details)
  let standard : List (Text × Json) := [("timestamp",.text timestamp),("level",severity),
    ("logger",source),("message",.text text),("module",place),("func_name",function)]
  return standard ++ details ++ failureMembers event.failure

def line (event : Event) : Except Failure Text := do
  return (Json.object (← event.members)).write Json.spaced

end BotGateway.Event
