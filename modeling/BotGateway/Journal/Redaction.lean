import BotGateway.Text.Basic

/-! Masking of secrets in text. Tokens are masked one after another, in the order in which they
were registered. -/
namespace BotGateway

def mask : Text := "BOT_TOKEN"

structure Redaction where
  tokens : List Text
  deriving DecidableEq, Repr

namespace Redaction

def empty : Redaction := ⟨[]⟩

def add (redaction : Redaction) (token : Text) : Redaction :=
  if token.isEmpty || redaction.tokens.contains token then redaction
  else ⟨redaction.tokens ++ [token]⟩

def redact (redaction : Redaction) (text : Text) : Text :=
  redaction.tokens.foldl (fun text token => Text.replaceAll token mask text) text

end Redaction
end BotGateway
