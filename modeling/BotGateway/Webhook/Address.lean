import BotGateway.Failure

/-! Addresses to listen on: a host and a port after the last colon. -/
namespace BotGateway

structure Address where
  host : Text
  port : Int
  deriving DecidableEq, Repr

namespace Address

def everywhere : Text := "0.0.0.0"

def isBracket (c : CodePoint) : Bool := c == '[' || c == ']'

def hostOf (text : Text) : Text :=
  let host := Text.trim isBracket text
  if host.isEmpty then everywhere else host

def parse (address : Text) : Except Failure Address :=
  match Text.splitLast (':' : CodePoint) address with
  | none => .error (.badAddress address)
  | some (host,port) =>
    if port.isEmpty || !port.all Class.isDigit then .error (.badAddress address)
    else
      match Numeral.readDecimal port with
      | .ok n => .ok ⟨hostOf host,n⟩
      | .error fault => .error (.numeral 10 (Quoted.text port) fault)

end Address
end BotGateway
