import BotGateway.Failure

/-! Sources of file content: buffers with a position, and the ways a source answers a read. The
shelf keeps the state of every source by its handle. -/
namespace BotGateway

structure Buffer where
  data : Bytes
  position : Nat
  deriving DecidableEq, Repr

namespace Buffer

def sizeBound : Int := 0x8000000000000000

def fits (n : Int) : Bool := -sizeBound ≤ n && n < sizeBound

def read (buffer : Buffer) (size : Option Int) : Bytes × Buffer :=
  let rest := buffer.data.drop buffer.position
  let taken := match size with
    | none => rest
    | some n => if n < 0 then rest else rest.take n.toNat
  (taken,⟨buffer.data,buffer.position + taken.length⟩)

def readAs (buffer : Buffer) : Value → Except Failure (Bytes × Buffer)
  | .null => .ok (buffer.read none)
  | .int n => if fits n then .ok (buffer.read (some n)) else .error .sizeOverflow
  | .bool b => .ok (buffer.read (some (if b then 1 else 0)))
  | other => .error (.notReadSize other.typeName)

def seek (buffer : Buffer) (offset whence : Int) : Except Failure Buffer :=
  let move (base : Nat) : Except Failure Buffer :=
    if sizeBound ≤ base + offset then .error .positionTooLarge
    else .ok ⟨buffer.data,(base + offset).toNat⟩
  if whence = 0 then
    if offset < 0 then .error (.negativeSeek offset) else .ok ⟨buffer.data,offset.toNat⟩
  else if whence = 1 then move buffer.position
  else if whence = 2 then move buffer.data.length
  else .error (.badWhence whence)

def integerArgument (bound : Int) (tooLarge : Failure) : Value → Except Failure Int
  | .int n => if -bound ≤ n && n < bound then .ok n else .error tooLarge
  | .bool b => .ok (if b then 1 else 0)
  | other => .error (.notInteger other.typeName)

def seekAs (buffer : Buffer) (offset whence : Value) : Except Failure Buffer := do
  let offset ← integerArgument sizeBound .offsetTooLarge offset
  let whence ← integerArgument 0x80000000 .whenceTooLarge whence
  buffer.seek offset whence

end Buffer

inductive Behaviour where
  | buffered (buffer : Buffer)
  | streamed (pending : Bytes)
  | failsToSeek (message : Text)
  | failsToRead (failure : Failure)
  | yields (value : Value)

namespace Behaviour

def readAll : Behaviour → Except Failure Value × Behaviour
  | .buffered buffer =>
    (.ok (.bytes buffer.data),.buffered ⟨buffer.data,buffer.data.length⟩)
  | .streamed pending => (.ok (.bytes pending),.streamed [])
  | .failsToSeek message => (.error (.raised .os message),.failsToSeek message)
  | .failsToRead failure => (.error failure,.failsToRead failure)
  | .yields value => (.ok value,.yields value)

end Behaviour

abbrev Shelf := List (Nat × Behaviour)

namespace Shelf

def find (shelf : Shelf) (handle : Nat) : Behaviour :=
  (shelf.lookup handle).getD (.streamed [])

def put (handle : Nat) (behaviour : Behaviour) : Shelf → Shelf
  | [] => [(handle,behaviour)]
  | (h,b) :: rest =>
    if h = handle then (handle,behaviour) :: rest else (h,b) :: put handle behaviour rest

end Shelf
end BotGateway
