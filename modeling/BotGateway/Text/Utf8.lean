import BotGateway.Text.Basic

/-! UTF-8 in both directions. Reading is strict; on request it also takes the three-byte form of a
surrogate. Writing refuses surrogates and says where the first run of them stands. -/
namespace BotGateway.Utf8

def isSurrogate (c : CodePoint) : Bool := 0xD800 ≤ c.val && c.val < 0xE000

structure LoneSurrogates where
  start : Nat
  first : CodePoint
  count : Nat
  deriving DecidableEq, Repr

def loneSurrogates (text : Text) : Option LoneSurrogates :=
  match text.dropWhile (!isSurrogate ·) with
  | [] => none
  | c :: rest =>
    some ⟨(text.takeWhile (!isSurrogate ·)).length,c,1 + (rest.takeWhile isSurrogate).length⟩

def tailByte (n : Nat) : UInt8 := UInt8.ofNat (0x80 + n % 64)

def encodeOne (c : CodePoint) : Bytes :=
  let n := c.val
  if n < 0x80 then [UInt8.ofNat n]
  else if n < 0x800 then [UInt8.ofNat (0xC0 + n / 64),tailByte n]
  else if n < 0x10000 then [UInt8.ofNat (0xE0 + n / 4096),tailByte (n / 64),tailByte n]
  else [UInt8.ofNat (0xF0 + n / 262144),tailByte (n / 4096),tailByte (n / 64),tailByte n]

def bytesOf (text : Text) : Bytes := text.flatMap encodeOne

def encode (text : Text) : Except LoneSurrogates Bytes :=
  match loneSurrogates text with
  | some found => .error found
  | none => .ok (bytesOf text)

structure Open where
  missing : Nat
  value : Nat
  low : UInt8
  high : UInt8
  deriving DecidableEq, Repr

inductive Start where
  | whole (c : CodePoint)
  | opens (sequence : Open)
  | invalid

def start (surrogates : Bool) (b : UInt8) : Start :=
  let n := b.toNat
  if n < 0x80 then .whole (CodePoint.ofNat n)
  else if n < 0xC2 then .invalid
  else if n < 0xE0 then .opens ⟨1,n - 0xC0,0x80,0xBF⟩
  else if n = 0xE0 then .opens ⟨2,0,0xA0,0xBF⟩
  else if n = 0xED then .opens ⟨2,0xD,0x80,if surrogates then 0xBF else 0x9F⟩
  else if n < 0xF0 then .opens ⟨2,n - 0xE0,0x80,0xBF⟩
  else if n = 0xF0 then .opens ⟨3,0,0x90,0xBF⟩
  else if n < 0xF4 then .opens ⟨3,n - 0xF0,0x80,0xBF⟩
  else if n = 0xF4 then .opens ⟨3,4,0x80,0x8F⟩
  else .invalid

def decodeFrom (surrogates : Bool) : Option Open → Bytes → Option Text
  | none, [] => some []
  | some _, [] => none
  | none, b :: rest =>
    match start surrogates b with
    | .whole c => (decodeFrom surrogates none rest).map (c :: ·)
    | .opens sequence => decodeFrom surrogates (some sequence) rest
    | .invalid => none
  | some ⟨missing,value,low,high⟩, b :: rest =>
    if low ≤ b && b ≤ high then
      let value := value * 64 + b.toNat % 64
      if missing ≤ 1 then (decodeFrom surrogates none rest).map (CodePoint.ofNat value :: ·)
      else decodeFrom surrogates (some ⟨missing - 1,value,0x80,0xBF⟩) rest
    else none

def decode? (raw : Bytes) : Option Text := decodeFrom false none raw

end BotGateway.Utf8
