import BotGateway.Text.Class

/-! Bot tokens: digits, a colon and a secret of fixed length. One line break may follow. -/
namespace BotGateway.Token

def secretLength : Nat := 35

def isSecretPart (c : CodePoint) : Bool := Class.isWord c || c == '-'

def withoutLineEnd (token : Text) : Text :=
  match token.getLast? with
  | some c => if c == '\n' then token.dropLast else token
  | none => token

def isWellFormed (token : Text) : Bool :=
  match Text.splitFirst (':' : CodePoint) token with
  | none => false
  | some (number,secret) =>
    !number.isEmpty && number.all Class.isDecimal && secret.length == secretLength &&
      secret.all isSecretPart

def isValid (token : Text) : Bool := isWellFormed (withoutLineEnd token)

end BotGateway.Token
