import BotGateway.Failure
import BotGateway.Http.Line
import BotGateway.Text.Case

/-! Chunked bodies: sized chunks up to one of size zero, then trailer lines up to an empty one. A
reader returns what it made of the stream and the bytes it left. -/
namespace BotGateway.Http

def maxLine : Nat := 65537

def semicolon : UInt8 := 0x3B

def readBound : Nat := 0x8000000000000000

def isMarginByte (b : UInt8) : Bool := b == 0x20 || (9 ≤ b && b ≤ 13)

def sizeField (line : Bytes) : Bytes := Text.trim isMarginByte (line.takeWhile (· != semicolon))

def chunkSize (line : Bytes) : Except Failure Int :=
  let field := sizeField line
  match Numeral.readHex (Quoted.latin field) with
  | .ok size => .ok size
  | .error fault => .error (.numeral 16 (Quoted.bytes field) fault)

def skipTrailer (stream : Bytes) : Except Failure Unit × Bytes :=
  let read := readLine maxLine stream
  if h : read.1 = [] then (.error .trailerTruncated,read.2)
  else if isEmptyLine read.1 then (.ok (),read.2)
  else
    have := readLine_rest_length_lt h
    skipTrailer read.2
termination_by stream.length

def readSize (line : Bytes) : Except Failure Nat := do
  let size ← chunkSize line
  if size < 0 then throw (.negativeChunk size) else return size.toNat

def readChunk (size : Nat) (stream : Bytes) : Except Failure Bytes × Bytes :=
  if readBound ≤ size then (.error .sizeOverflow,stream)
  else
    let data := stream.take size
    let rest := stream.drop size
    if data.length ≠ size then (.error (.chunkTruncated data.length size),rest)
    else
      let (mark,after) := readLine maxLine rest
      if isEmptyLine mark then (.ok data,after) else (.error .chunkUnended,after)

theorem readChunk_rest_length_le (size : Nat) (stream : Bytes) :
    (readChunk size stream).2.length ≤ stream.length := by
  have line := readLine_rest_length_le maxLine (stream.drop size)
  have dropped := List.length_drop (i := size) (l := stream)
  simp only [readChunk]
  split
  · simp
  · split
    · simp only [dropped]; omega
    · split <;> simp only <;> omega

def exceeds (limit : Option Nat) (total : Nat) : Bool :=
  match limit with
  | some limit => limit < total
  | none => false

def readChunks (limit : Option Nat) (total : Nat) (stream : Bytes) : Except Failure Bytes × Bytes :=
  let read := readLine maxLine stream
  if h : endsLine read.1 = true then
    match readSize read.1 with
    | .error failure => (.error failure,read.2)
    | .ok 0 =>
      let (result,rest) := skipTrailer read.2
      (result.map fun _ => [],rest)
    | .ok size =>
      if exceeds limit (total + size) then (.error (.bodyTooLarge (limit.getD 0)),read.2)
      else
        let chunk := readChunk size read.2
        match chunk.1 with
        | .error failure => (.error failure,chunk.2)
        | .ok data =>
          have := Nat.lt_of_le_of_lt (readChunk_rest_length_le size read.2)
            (readLine_rest_length_lt (ne_nil_of_endsLine h))
          let (result,rest) := readChunks limit (total + size) chunk.2
          (result.map fun body => data ++ body,rest)
  else (.error .sizeLineTruncated,read.2)
termination_by stream.length

def readChunked (limit : Option Nat) (stream : Bytes) : Except Failure Bytes × Bytes :=
  readChunks limit 0 stream

def isChunked (coding : Option Text) : Bool :=
  Text.hasPiece "chunked" (Case.lower (coding.getD []))

end BotGateway.Http
