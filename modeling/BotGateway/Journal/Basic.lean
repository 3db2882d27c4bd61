import BotGateway.Journal.Redaction
import BotGateway.Journal.Severity
import BotGateway.Value.Basic

/-! The journal of a run: leveled messages with details, masked as they are written. -/
namespace BotGateway

inductive Level where
  | debug
  | info
  | warning
  | error
  deriving DecidableEq, Repr

namespace Level

def severity : Level → Int
  | .debug => 10
  | .info => 20
  | .warning => 30
  | .error => 40

def name (level : Level) : Text := Severity.name level.severity

end Level

abbrev Details := List (Text × Value)

structure Entry where
  level : Level
  message : Text
  details : Details
  deriving Repr

def Redaction.detail (redaction : Redaction) : Value → Value
  | .text t => .text (redaction.redact t)
  | value => value

namespace Entry

def redacted (redaction : Redaction) (entry : Entry) : Entry :=
  ⟨entry.level,redaction.redact entry.message,
    entry.details.map fun (key,value) => (key,redaction.detail value)⟩

end Entry

structure Journal where
  redaction : Redaction
  entries : List Entry

namespace Journal

def empty : Journal := ⟨.empty,[]⟩

def write (journal : Journal) (entry : Entry) : Journal :=
  {journal with entries := journal.entries ++ [entry.redacted journal.redaction]}

def register (journal : Journal) (token : Text) : Journal :=
  {journal with redaction := journal.redaction.add token}

end Journal
end BotGateway
