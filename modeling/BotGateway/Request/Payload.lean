import BotGateway.Action
import BotGateway.Request.Attachment
import BotGateway.Request.Multipart
import BotGateway.Request.Source

/-! The body of a request: a document, or parts when there are files to send. Every source is read
once for a request, in the order in which the files stand. -/
namespace BotGateway

structure Payload where
  contentType : Text
  body : Bytes
  deriving DecidableEq, Repr

abbrev Contents := List (Nat × Bytes)

namespace Attachment

def unreadable (part : Text) (failure : Failure) : Failure :=
  if failure.kind.isOrdinary then .fileUnreadable part failure else failure

def bytesOfRead (part : Text) : Value → Except Failure Bytes
  | .bytes raw => .ok raw
  | .text t =>
    match Utf8.encode t with
    | .ok raw => .ok raw
    | .error found => .error (.unencodable found)
  | other => .error (.fileNotBytes part other.typeName)

def read (part : Text) (source : Source) : Action Shelf Bytes := do
  let shelf ← Action.current
  let (result,behaviour) := (shelf.find source.handle).readAll
  Action.change (·.put source.handle behaviour)
  match result with
  | .ok value => bytesOfRead part value
  | .error failure => throw (unreadable part failure)

def parts (contents : Contents) : List Attachment → Action Shelf (List Part)
  | [] => return []
  | attachment :: rest =>
    match attachment.file.content with
    | none => throw (.fileNotBytes attachment.partName Value.null.typeName)
    | some source => do
      let raw ← match contents.lookup source.handle with
        | some raw => pure raw
        | none => read attachment.partName source
      let others ← parts ((source.handle,raw) :: contents) rest
      return ⟨attachment.partName,some attachment.file.filename,.bytes raw⟩ :: others

end Attachment

namespace Payload

def documentType : Text := "application/json"

def fieldText : Value → Except Value.Unwritable Text
  | .text t => .ok t
  | value => value.write

def formParts : List (Text × Value) → Except Value.Unwritable (List Part)
  | [] => .ok []
  | (name,value) :: rest => do
    let t ← fieldText value
    return ⟨name,none,.text t⟩ :: (← formParts rest)

def encodeDocument (document : Value) : Except Failure Bytes :=
  match document.write with
  | .error cause => .error (.unwritable cause)
  | .ok t =>
    match Utf8.encode t with
    | .error found => .error (.unencodable found)
    | .ok raw => .ok raw

def encodeMultipart (boundary : Text) (files : List Part) (fields : List (Text × Value)) :
    Except Failure Bytes :=
  match formParts fields with
  | .error cause => .error (.unwritable cause)
  | .ok form =>
    match Multipart.encodeParts boundary (files ++ form) with
    | .error found => .error (.unencodable found)
    | .ok raw => .ok raw

def sorted (names : List Text) : List Text := names.mergeSort Text.precedes

def partsDetails (prepared : Prepared) : Details :=
  [("file_parts",.list (prepared.attachments.map fun a => .text a.partName)),
    ("form_fields",.list ((sorted (prepared.fields.map (·.1))).map .text))]

def ofPrepared (boundary : Text) (prepared : Prepared) : Action Shelf Payload := do
  if prepared.attachments.isEmpty then
    match encodeDocument prepared.document with
    | .ok body => return ⟨documentType,body⟩
    | .error cause => throw (.documentBody cause)
  else
    let files ← Attachment.parts [] prepared.attachments
    match encodeMultipart boundary files prepared.fields with
    | .error cause => throw (.multipartBody cause)
    | .ok body =>
      Action.note .debug "Encoded multipart request" (partsDetails prepared)
      return ⟨Multipart.contentType boundary,body⟩

def encode (boundary : Text) (parameters : Value) : Action Shelf Payload :=
  if parameters.hasLongKey then throw (.unwritable .longInteger)
  else ofPrepared boundary (.ofParameters parameters)

end Payload
end BotGateway
