import BotGateway.Failure
import BotGateway.Journal.Basic

/-! What happened and is to be written down: a message with the arguments that complete it, where
and when it was raised, and details of any name. -/
namespace BotGateway

structure Event where
  source : Value
  severity : Value
  message : Value
  arguments : Value
  place : Value
  function : Value
  created : Value
  failure : Option Failure
  details : Details
  deriving Repr

namespace Event

def ownNames : List String := [
  "name","msg","args","levelname","levelno","pathname","filename","module","exc_info","exc_text",
  "stack_info","lineno","funcName","created","msecs","relativeCreated","thread","threadName",
  "processName","process","message","asctime"]

def isOwn (name : Text) : Bool := ownNames.any fun own => (own : Text) == name

def withoutExtension (name : Text) : Text :=
  match Text.splitLast ('.' : CodePoint) name with
  | some (before,_) => if before.all (· == ('.' : CodePoint)) then name else before
  | none => name

def placeOf (path : Text) : Text := withoutExtension (Text.baseName path)

def argumentsOf : List Value → Value
  | [.map (entry :: rest)] => .map (entry :: rest)
  | arguments => .tuple arguments

def setDetail (name : Text) (value : Value) : Details → Details
  | [] => [(name,value)]
  | (known,old) :: rest =>
    if known == name then (name,value) :: rest else (known,old) :: setDetail name value rest

def set (event : Event) (name : Text) (value : Value) : Event :=
  if !isOwn name then {event with details := setDetail name value event.details}
  else if name == "name" then {event with source := value}
  else if name == "levelname" then {event with severity := value}
  else if name == "msg" then {event with message := value}
  else if name == "args" then {event with arguments := value}
  else if name == "module" then {event with place := value}
  else if name == "funcName" then {event with function := value}
  else if name == "created" then {event with created := value}
  else if name == "exc_info" && !value.isTruthy then {event with failure := none}
  else event

def setAll (event : Event) (given : Details) : Event :=
  given.foldl (fun event (name,value) => event.set name value) event

def text (event : Event) : Except Failure Text :=
  let template := event.message.display
  if event.message.hasLongInteger then .error (.template .longInteger)
  else if event.arguments.isTruthy then
    match Template.fill template event.arguments with
    | .ok text => .ok text
    | .error fault => .error (.template fault)
  else .ok template

end Event

def Redaction.mask (redaction : Redaction) (event : Event) : Except Failure Event := do
  if redaction.tokens.isEmpty then return event
  let text ← event.text
  return {event with
    message := .text (redaction.redact text)
    arguments := .null
    details := event.details.map fun (name,value) => (name,redaction.detail value)}

end BotGateway
