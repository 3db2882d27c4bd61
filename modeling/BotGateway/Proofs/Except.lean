/-! How a sequence of two steps that may fail ends: where both succeed, or where one of them fails. -/
namespace BotGateway
variable {ε α β : Type} {first : Except ε α} {next : α → Except ε β}

theorem exceptOk {b : β} :
    first >>= next = .ok b ↔ ∃ a, first = .ok a ∧ next a = .ok b := by
  cases first with
  | error e => simp [bind,Except.bind]
  | ok a => simp [bind,Except.bind]

theorem exceptError {e : ε} :
    first >>= next = .error e ↔ first = .error e ∨ ∃ a, first = .ok a ∧ next a = .error e := by
  cases first with
  | error e => simp [bind,Except.bind]
  | ok a => simp [bind,Except.bind]

end BotGateway
