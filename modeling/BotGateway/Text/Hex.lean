import BotGateway.Text.Class
import BotGateway.Text.Quoted

/-! Bytes as hexadecimal text, two digits for each. -/
namespace BotGateway.Hex

def encode (raw : Bytes) : Text := raw.flatMap fun b => Quoted.hex 2 b.toNat

def decode : Text → Bytes
  | high :: low :: rest =>
    let value (c : CodePoint) : Nat := (Class.hexValue c).getD 0
    UInt8.ofNat (value high * 16 + value low) :: decode rest
  | _ => []

end BotGateway.Hex
