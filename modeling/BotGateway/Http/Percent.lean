import BotGateway.Text.Quoted
import BotGateway.Text.Utf8

/-! Percent escapes in paths. Escapes that spell UTF-8 are decoded; others stand for themselves,
with their digits as capitals. -/
namespace BotGateway.Http.Percent

inductive Piece where
  | plain (c : CodePoint)
  | escaped (b : UInt8)
  deriving DecidableEq, Repr

def pieces : Text → List Piece
  | a :: b :: c :: rest =>
    if a == '%' then
      match Class.hexValue b, Class.hexValue c with
      | some high, some low => .escaped (UInt8.ofNat (high * 16 + low)) :: pieces rest
      | _, _ => .plain a :: pieces (b :: c :: rest)
    else .plain a :: pieces (b :: c :: rest)
  | a :: rest => .plain a :: pieces rest
  | [] => []

def leading : List Piece → Bytes
  | .escaped b :: rest => b :: leading rest
  | _ => []

def firstCharacter (raw : Bytes) : Option (CodePoint × Nat) :=
  [1,2,3,4].findSome? fun size =>
    match Utf8.decode? (raw.take size) with
    | some [c] => some (c,size)
    | _ => none

def escape (b : UInt8) : Text :=
  ('%' : CodePoint) :: (Quoted.hex 2 b.toNat).map fun c =>
    if 0x61 ≤ c.val then CodePoint.ofNat (c.val - 32) else c

def decodePieces (covered : Nat) : List Piece → Text
  | [] => []
  | .plain c :: rest => c :: decodePieces 0 rest
  | .escaped b :: rest =>
    match covered with
    | n + 1 => decodePieces n rest
    | 0 =>
      match firstCharacter (b :: leading rest) with
      | some (c,size) => c :: decodePieces (size - 1) rest
      | none => escape b ++ decodePieces 0 rest

def decode (path : Text) : Text := decodePieces 0 (pieces path)

end BotGateway.Http.Percent
