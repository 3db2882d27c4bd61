import BotGateway.Client.Basic
import BotGateway.Journal.Sink
import BotGateway.Webhook.Backend

/-! The settings of a bot, read from named variables, and the report on them at the start. -/
namespace BotGateway

abbrev Variables := List (Text × Text)

structure Settings where
  severity : Int
  logDirectory : Option Text
  token : Option Text
  apiUrl : Text
  address : Text
  path : Text
  publicUrl : Option Text
  secret : Option Text
  backend : Text

namespace Settings
variable {world : Type}

def defaultAddress : Text := "0.0.0.0:8443"

def defaultPath : Text := "/bot"

def defaultBackend : Text := Backend.eventLoop.name

def present (setting : Option Text) : Option Text := setting.filter (!·.isEmpty)

def severityOf (setting : Option Text) : Int :=
  ((present setting).map Severity.ofSetting).getD Severity.standard

def backendOf (setting : Option Text) : Text :=
  let name := Case.lower (Text.trim Class.isBlank ((present setting).getD defaultBackend))
  if (Backend.ofName? name).isSome then name else defaultBackend

def variableNames : List String := ["LOG_LEVEL","LOG_DIR","BOT_TOKEN","API_URL","WEBHOOK_ADDRESS",
  "WEBHOOK_PATH","WEBHOOK_URL","WEBHOOK_SECRET","WEBHOOK_BACKEND"]

def ofVariables (known : Variables) : Settings :=
  let find (name : String) : Option Text := known.lookup (name : Text)
  ⟨severityOf (find "LOG_LEVEL"),present (find "LOG_DIR"),find "BOT_TOKEN",
    Text.trimEnd (· == ('/' : CodePoint)) ((find "API_URL").getD Client.defaultApiUrl),
    (find "WEBHOOK_ADDRESS").getD defaultAddress,(find "WEBHOOK_PATH").getD defaultPath,
    present (find "WEBHOOK_URL"),present (find "WEBHOOK_SECRET"),
    backendOf (find "WEBHOOK_BACKEND")⟩

def report (settings : Settings) : Action world Unit := do
  match present settings.token with
  | some token =>
    Action.register token
    Action.note .info "Config loaded — BOT_TOKEN is set" [("api_url",.text settings.apiUrl)]
  | none => Action.note .warning "Config loaded — BOT_TOKEN is NOT set" []
  if (present settings.secret).isNone then
    Action.note .warning
      "No WEBHOOK_SECRET configured, inbound requests are not authenticated" []
  Action.note .info "Webhook settings resolved"
    [("address",.text settings.address),("path",.text settings.path),
      ("backend",.text settings.backend)]

def lines (settings : Settings) (created : Value) (entries : List Entry) :
    Except Failure (List Text) := do
  let sink ← entries.foldlM (fun sink entry =>
    sink.log entry.level.severity ⟨Sink.source,"config",.text "<module>",created,
      .text entry.message,[],entry.details⟩) (Sink.create settings.severity false)
  return sink.lines

end Settings
end BotGateway
