import BotGateway.Proofs.Request.Encoding
import BotGateway.Proofs.Request.Refusal
import Mathlib.Data.List.Forall2
import Mathlib.Data.List.Nodup

/-! Requests encoded from readers of any kind: what a reader does when it is put to its start or read
is any action on any world. The sources on the shelf are one such kind. Under record, every reading is
written down with what it gave; recording changes nothing else. -/
namespace BotGateway
open BotGateway.Action

namespace Behaviour

def rewound : Behaviour → Except Failure Behaviour
  | .buffered buffer => .ok (.buffered ⟨buffer.data,0⟩)
  | .failsToSeek message => .error (.raised .os message)
  | behaviour => .ok behaviour

def drained : Behaviour → Except Failure Value × Behaviour
  | .buffered buffer => (.ok (.bytes (buffer.read none).1),.buffered (buffer.read none).2)
  | .streamed pending => (.ok (.bytes pending),.streamed [])
  | .failsToSeek message => (.error (.raised .os message),.failsToSeek message)
  | .failsToRead failure => (.error failure,.failsToRead failure)
  | .yields value => (.ok value,.yields value)

theorem readAllInTurn (behaviour : Behaviour) : behaviour.readAll =
    match behaviour.rewound with
    | .ok rewound => rewound.drained
    | .error failure => (.error failure,behaviour) := by
  cases behaviour with
  | buffered buffer => simp [readAll,rewound,drained,Buffer.read]
  | _ => rfl

end Behaviour

structure Reader (world : Type) where
  rewind : Source → Action world Unit
  read : Source → Action world Value

namespace Reader
variable {world : Type}

def taken (reader : Reader world) (source : Source) : Action world Value := do
  reader.rewind source
  reader.read source

def content (reader : Reader world) (part : Text) (source : Source) : Action world Bytes := do
  match ← outcome (reader.taken source) with
  | .ok value => MonadExcept.ofExcept (Attachment.bytesOfRead part value)
  | .error failure => throw (Attachment.unreadable part failure)

def contentOf (reader : Reader world) (contents : Contents) (part : Text) (source : Source) :
    Action world Bytes :=
  match contents.lookup source.handle with
  | some raw => pure raw
  | none => reader.content part source

def parts (reader : Reader world) (contents : Contents) : List Attachment → Action world (List Part)
  | [] => return []
  | attachment :: rest =>
    match attachment.file.content with
    | none => throw (.fileNotBytes attachment.partName Value.null.typeName)
    | some source => do
      let raw ← reader.contentOf contents attachment.partName source
      let others ← reader.parts ((source.handle,raw) :: contents) rest
      return Attachment.filePart attachment raw :: others

def send (reader : Reader world) (boundary : Text) (prepared : Prepared) : Action world Payload := do
  if prepared.attachments.isEmpty then
    match Payload.encodeDocument prepared.document with
    | .ok body => return ⟨Payload.documentType,body⟩
    | .error cause => throw (.documentBody cause)
  else
    let files ← reader.parts [] prepared.attachments
    match Payload.encodeMultipart boundary files prepared.fields with
    | .error cause => throw (.multipartBody cause)
    | .ok body =>
      note .debug "Encoded multipart request" (Payload.partsDetails prepared)
      return ⟨Multipart.contentType boundary,body⟩

def encode (reader : Reader world) (boundary : Text) (parameters : Value) : Action world Payload :=
  if parameters.hasLongKey then throw (.unwritable .longInteger)
  else reader.send boundary (.ofParameters parameters)

end Reader

namespace Shelf

theorem lookupPut (handle : Nat) (behaviour : Behaviour) (shelf : Shelf) :
    (shelf.put handle behaviour).lookup handle = some behaviour := by
  induction shelf with
  | nil => simp [put]
  | cons entry rest ih =>
    obtain ⟨other,held⟩ := entry
    by_cases same : other = handle
    · simp [put,same]
    · simp [put,if_neg same,List.lookup_cons,beq_false_of_ne (Ne.symm same),ih]

theorem putAgain (handle : Nat) (first last : Behaviour) (shelf : Shelf) :
    (shelf.put handle first).put handle last = shelf.put handle last := by
  induction shelf with
  | nil => simp [put]
  | cons entry rest ih =>
    obtain ⟨other,held⟩ := entry
    by_cases same : other = handle
    · simp [put,same]
    · simp [put,if_neg same,ih]

theorem putHeld {handle : Nat} {behaviour : Behaviour} {shelf : Shelf}
    (held : shelf.lookup handle = some behaviour) : shelf.put handle behaviour = shelf := by
  induction shelf with
  | nil => cases held
  | cons entry rest ih =>
    obtain ⟨other,kept⟩ := entry
    by_cases same : other = handle
    · subst same
      rw [List.lookup_cons,beq_self_eq_true] at held
      cases held
      simp [put]
    · rw [List.lookup_cons,beq_false_of_ne (Ne.symm same)] at held
      simp [put,if_neg same,ih held]

end Shelf

namespace Reader

def onShelf : Reader Shelf :=
  ⟨fun source => do
    let shelf ← current
    match (shelf.find source.handle).rewound with
    | .ok behaviour => change (·.put source.handle behaviour)
    | .error failure => throw failure,
  fun source => do
    let shelf ← current
    let (result,behaviour) := (shelf.find source.handle).drained
    change (·.put source.handle behaviour)
    MonadExcept.ofExcept result⟩

theorem takenOnShelf (source : Source) (scene : Scene Shelf) :
    (onShelf.taken source).perform scene =
      let behaviour := scene.world.find source.handle
      (behaviour.readAll.1,⟨scene.journal,scene.world.put source.handle behaviour.readAll.2⟩) := by
  simp only [taken,onShelf,perform_bind,perform_current,Behaviour.readAllInTurn]
  cases rewound : (scene.world.find source.handle).rewound with
  | ok behaviour =>
    have found : (scene.world.put source.handle behaviour).find source.handle = behaviour := by
      rw [Shelf.find,Shelf.lookupPut,Option.getD_some]
    simp only [perform_change,perform_ofExcept,found,Shelf.putAgain]
  | error failure =>
    have held : scene.world.lookup source.handle = some (scene.world.find source.handle) := by
      cases known : scene.world.lookup source.handle with
      | some behaviour => simp [Shelf.find,known]
      | none => simp [Shelf.find,known,Behaviour.rewound] at rewound
    simp only [perform_throw,Shelf.putHeld held]

theorem contentOnShelf (part : Text) (source : Source) :
    onShelf.content part source = Attachment.read part source := by
  refine ExceptT.ext (funext fun scene => ?_)
  have opened : (onShelf.content part source).perform scene =
      (Attachment.read part source).perform scene := by
    rw [Attachment.readGiven part rfl,content,perform_bind,perform_outcome,takenOnShelf]
    unfold Attachment.given
    cases (scene.world.find source.handle).readAll.1 with
    | ok value => exact perform_ofExcept ..
    | error failure => rfl
  exact opened

theorem contentOfOnShelf (contents : Contents) (part : Text) (source : Source) :
    onShelf.contentOf contents part source = Attachment.contentOf contents part source := by
  unfold contentOf Attachment.contentOf
  cases contents.lookup source.handle with
  | some raw => rfl
  | none => exact contentOnShelf part source

theorem partsOnShelf (contents : Contents) (attachments : List Attachment) :
    onShelf.parts contents attachments = Attachment.parts contents attachments := by
  induction attachments generalizing contents with
  | nil => rfl
  | cons attachment rest ih =>
    cases held : attachment.file.content with
    | none => rw [parts,Attachment.parts,held]
    | some source =>
      rw [Attachment.partsWithSource held,parts,held]
      simp only [contentOfOnShelf,ih]

theorem encodeOnShelf (boundary : Text) (parameters : Value) :
    onShelf.encode boundary parameters = Payload.encode boundary parameters := by
  have sends (prepared : Prepared) :
      onShelf.send boundary prepared = Payload.ofPrepared boundary prepared := by
    unfold send Payload.ofPrepared
    cases prepared.attachments.isEmpty with
    | true => rfl
    | false => exact congrArg (· >>= _) (partsOnShelf [] prepared.attachments)
  rw [encode,Payload.encode,sends]

end Reader
end BotGateway
