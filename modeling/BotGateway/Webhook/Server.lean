import BotGateway.Webhook.Ingress

/-! What a webhook server offers to bots, whoever runs it. -/
namespace BotGateway

structure Server (world : Type) where
  start : Text → Action world Value
  stop : Value → Action world Value
  register : Text → Ingress world → Action world Value

end BotGateway
