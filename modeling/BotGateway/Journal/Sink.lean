import BotGateway.Journal.Line

/-! Where events are written as lines: what is severe enough is masked and goes to every outlet
that is open. -/
namespace BotGateway

structure Notice where
  source : Text
  path : Text
  function : Value
  created : Value
  message : Value
  arguments : List Value
  details : Details

namespace Notice

def event (notice : Notice) (severity : Int) (failure : Option Failure) : Event :=
  ⟨.text notice.source,.text (Severity.name severity),notice.message,
    Event.argumentsOf notice.arguments,.text (Event.placeOf notice.path),notice.function,
    notice.created,failure,[]⟩

end Notice

structure Sink where
  threshold : Int
  outlets : Nat
  redaction : Redaction
  lines : List Text

namespace Sink

def source : Text := "tgwire"

def fileName : Text := "tgwire.log"

def create (threshold : Int) (withFile : Bool) : Sink :=
  ⟨threshold,if withFile then 2 else 1,.empty,[]⟩

def inherited : Int := 30

def effective (sink : Sink) : Int := if sink.threshold = 0 then inherited else sink.threshold

def isEnabled (sink : Sink) (severity : Int) : Bool :=
  0 < severity && sink.effective ≤ severity

def checkDetails (details : Details) : Except Failure Unit :=
  match details.find? fun (name,_) => Event.isOwn name with
  | some (name,_) => .error (.attributeTaken name)
  | none => .ok ()

def emit (sink : Sink) (severity : Int) (event : Event) : Sink :=
  if sink.outlets = 0 || severity < sink.threshold then sink
  else match event.line with
    | .ok line => {sink with lines := sink.lines ++ [line]}
    | .error _ => sink

def log (sink : Sink) (severity : Int) (notice : Notice) : Except Failure Sink := do
  if sink.isEnabled severity then
    checkDetails notice.details
    let event ← sink.redaction.mask ((notice.event severity none).setAll notice.details)
    return sink.emit severity event
  else return sink

def register (sink : Sink) (token : Text) : Sink :=
  {sink with redaction := sink.redaction.add token}

def close (sink : Sink) : Sink := {sink with outlets := 0}

end Sink
end BotGateway
