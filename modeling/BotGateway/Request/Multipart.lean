import BotGateway.Request.MediaType
import BotGateway.Text.Utf8

/-! Multipart bodies: parts between boundary lines, each with its headers and its data. -/
namespace BotGateway

inductive PartData where
  | bytes (raw : Bytes)
  | text (t : Text)
  deriving DecidableEq, Repr

structure Part where
  name : Text
  fileName : Option Text
  data : PartData
  deriving DecidableEq, Repr

namespace Part

def quotedOne (c : CodePoint) : Text :=
  if c == '"' then "%22" else if c == '\n' then "%0A" else if c == '\r' then "%0D" else [c]

def quotedName (name : Text) : Text := "\"" ++ name.flatMap quotedOne ++ "\""

def lineEnd : Text := "\r\n"

def header (part : Part) : Text :=
  "Content-Disposition: form-data; name=" ++ quotedName part.name ++
    (match part.fileName with
    | some fileName =>
      "; filename=" ++ quotedName fileName ++ lineEnd ++
        "Content-Type: " ++ MediaType.guess fileName
    | none => []) ++ lineEnd ++ lineEnd

def PartData.encode : PartData → Except Utf8.LoneSurrogates Bytes
  | .bytes raw => .ok raw
  | .text t => Utf8.encode t

def encode (boundary : Text) (part : Part) : Except Utf8.LoneSurrogates Bytes := do
  let header ← Utf8.encode part.header
  let data ← PartData.encode part.data
  return Utf8.bytesOf ("--" ++ boundary ++ lineEnd) ++ header ++ data ++ ascii "\r\n"

end Part

namespace Multipart

def contentType (boundary : Text) : Text := "multipart/form-data; boundary=" ++ boundary

def encodeParts (boundary : Text) : List Part → Except Utf8.LoneSurrogates Bytes
  | [] => .ok (Utf8.bytesOf ("--" ++ boundary ++ "--" ++ Part.lineEnd))
  | part :: rest => do
    let first ← part.encode boundary
    let others ← encodeParts boundary rest
    return first ++ others

end Multipart
end BotGateway
