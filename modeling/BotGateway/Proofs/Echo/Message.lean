import BotGateway.Echo
import BotGateway.Proofs.Client.Call
import BotGateway.Proofs.Request.FormFields
import BotGateway.Proofs.Schema.Members

/-! What the bot sends for one update. The message of an update that was decoded has a chat and a text
that can be written, so it goes out as one post, and whatever the reply the bot goes on. -/
namespace BotGateway.Echo
open BotGateway.Action

section Decoded
variable {update : Value}

theorem messageText {message : Value} (draws : (Shape.record .message).Draws message) :
    message.field "text" = .null ∨ ∃ t, message.field "text" = .text t ∧ Utf8.Encodable t := by
  have listed : Field.optional "text" .text ∈ RecordKind.message.fields := by
    simp [RecordKind.fields]
  rcases RecordKind.fieldDraws rfl draws listed with default | drawn
  · exact .inl (Option.some.inj default).symm
  · exact (Shape.drawsOptional drawn).imp_right Shape.drawsText

end Decoded

section Saying
variable {chat : Int} {text : Text}

end Saying

section Answer
variable {client : Client} {update : Value}

end Answer
end BotGateway.Echo
