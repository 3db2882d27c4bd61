import BotGateway.Text.Utf8

/-! Text in sixteen-bit and thirty-two-bit units of either byte order, and the choice among the
Unicode encodings from the first bytes of a document. Surrogates without a partner are kept. -/
namespace BotGateway.Wide

inductive Order where
  | big
  | little
  deriving DecidableEq, Repr

def pair (order : Order) (a b : UInt8) : Nat :=
  match order with
  | .big => a.toNat * 256 + b.toNat
  | .little => b.toNat * 256 + a.toNat

def units16 (order : Order) : Bytes → Option (List Nat)
  | [] => some []
  | [_] => none
  | a :: b :: rest => (units16 order rest).map (pair order a b :: ·)

def isHigh (n : Nat) : Bool := 0xD800 ≤ n && n < 0xDC00

def isLow (n : Nat) : Bool := 0xDC00 ≤ n && n < 0xE000

def joined (high low : Nat) : CodePoint :=
  CodePoint.ofNat (0x10000 + (high - 0xD800) * 0x400 + (low - 0xDC00))

def ofUnits16 : List Nat → Text
  | [] => []
  | [unit] => [CodePoint.ofNat unit]
  | unit :: next :: rest =>
    if isHigh unit && isLow next then joined unit next :: ofUnits16 rest
    else CodePoint.ofNat unit :: ofUnits16 (next :: rest)

def decode16? (order : Order) (raw : Bytes) : Option Text := (units16 order raw).map ofUnits16

def decode32? (order : Order) : Bytes → Option Text
  | [] => some []
  | a :: b :: c :: d :: rest =>
    let n := match order with
      | .big => pair .big a b * 65536 + pair .big c d
      | .little => pair .little c d * 65536 + pair .little a b
    if n < 0x110000 then (decode32? order rest).map (CodePoint.ofNat n :: ·) else none
  | _ => none

/-- Reads a document by its byte order mark, else by the places of zero bytes in its first four;
UTF-8 when neither tells. -/
def decodeDetected? (raw : Bytes) : Option Text :=
  match raw with
  | 0x00 :: 0x00 :: 0xFE :: 0xFF :: rest => decode32? .big rest
  | 0xFF :: 0xFE :: 0x00 :: 0x00 :: rest => decode32? .little rest
  | 0xFE :: 0xFF :: rest => decode16? .big rest
  | 0xFF :: 0xFE :: rest => decode16? .little rest
  | 0xEF :: 0xBB :: 0xBF :: rest => Utf8.decodeFrom true none rest
  | 0x00 :: 0x00 :: _ :: _ :: _ => decode32? .big raw
  | 0x00 :: _ :: _ :: _ :: _ => decode16? .big raw
  | _ :: 0x00 :: 0x00 :: 0x00 :: _ => decode32? .little raw
  | _ :: 0x00 :: _ :: _ :: _ => decode16? .little raw
  | [0x00, _] => decode16? .big raw
  | [_, 0x00] => decode16? .little raw
  | _ => Utf8.decodeFrom true none raw

end BotGateway.Wide
