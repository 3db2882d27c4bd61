import BotGateway.Http.Chunked
import BotGateway.Http.Fields
import BotGateway.Http.RequestLine
import BotGateway.Webhook.Routes

/-! Webhooks served on a connection that carries one request and ends. Every request that is
answered is answered once; the bytes of a body that was declared are taken from the connection. -/
namespace BotGateway.Http

structure Response where
  status : Nat
  withStatusLine : Bool
  emptyBody : Bool
  deriving DecidableEq, Repr

structure Connection (world : Type) where
  stream : Bytes
  bodyRead : Bool
  behind : world

def backendName : Text := "http"

def noteRequest (detail : Text) : Action world Unit :=
  Action.note .debug "Webhook request" [("backend",.text backendName),("detail",.text detail)]

def accessLine (line : Text) (status : Nat) : Text :=
  "\"" ++ line ++ "\" " ++ Numeral.ofNat status ++ " -"

def refuse (line version : Text) (isHead : Bool) (status : Nat) (message : Text) :
    Action world (Option Response) := do
  noteRequest ("code " ++ Numeral.ofNat status ++ ", message " ++ message)
  noteRequest (accessLine line status)
  let withStatusLine := version != bareVersion
  return some ⟨status,withStatusLine,isHead || !withStatusLine⟩

def maxDiscard : Nat := 0x100000

def codingField : Text := "Transfer-Encoding"

def lengthField : Text := "Content-Length"

def contentLength (fields : Fields) : Except Failure Int :=
  let declared := (fields.get? lengthField).getD []
  if declared.isEmpty then .ok 0
  else
    match Numeral.readDecimal declared with
    | .ok n => .ok n
    | .error fault => .error (.numeral 10 (Quoted.text declared) fault)

def readSized (length : Int) (stream : Bytes) : Except Failure Bytes × Bytes :=
  if length < 0 then (.error (.negativeLength length),stream)
  else if (readBound : Int) ≤ length then (.error .sizeOverflow,stream)
  else
    let body := stream.take length.toNat
    let rest := stream.drop length.toNat
    if (body.length : Int) = length then (.ok body,rest)
    else (.error (.bodyTruncated body.length length),rest)

def readBody (fields : Fields) (stream : Bytes) : Except Failure Bytes × Bytes :=
  if isChunked (fields.get? codingField) then readChunked none stream
  else
    match contentLength fields with
    | .error failure => (.error failure,stream)
    | .ok length => readSized length stream

def discardBody (fields : Fields) (stream : Bytes) :
    Except Failure (Option Failure) × Bytes :=
  if isChunked (fields.get? codingField) then
    let (result,rest) := readChunked (some maxDiscard) stream
    match result with
    | .ok _ => (.ok none,rest)
    | .error failure => if failure.kind.isInput then (.ok (some failure),rest) else (.error failure,rest)
  else
    let declared := (fields.get? lengthField).getD []
    if declared.isEmpty || !declared.all Class.isDigit then (.ok none,stream)
    else
      match Numeral.readDecimal declared with
      | .error fault => (.error (.numeral 10 (Quoted.text declared) fault),stream)
      | .ok length =>
        if length ≤ maxDiscard then (.ok none,stream.drop length.toNat) else (.ok none,stream)

namespace Connection
variable {world : Type}

def takeBody (fields : Fields) : Action (Connection world) Bytes := do
  let connection ← Action.current
  let (result,rest) := readBody fields connection.stream
  Action.change fun connection => ⟨rest,true,connection.behind⟩
  match result with
  | .ok body => return body
  | .error failure => throw failure

def dropBody (fields : Fields) : Action (Connection world) Unit := do
  let connection ← Action.current
  if connection.bodyRead then return
  let (result,rest) := discardBody fields connection.stream
  Action.change fun connection => ⟨rest,connection.bodyRead,connection.behind⟩
  match result with
  | .error failure => throw failure
  | .ok none => return
  | .ok (some failure) =>
    Action.note .debug "Webhook body not drained"
      [("backend",.text backendName),("error",.text failure.message)]

def statusOf (routes : Routes world) (request : RequestLine) (fields : Fields) :
    Action (Connection world) Status :=
  match routes.ingress? (pathOf request.target) with
  | none => return .notFound
  | some ingress =>
    (ingress.within Connection.behind fun behind c => ⟨c.stream,c.bodyRead,behind⟩).process
      request.method (fields.get? secretHeader) (takeBody fields)

def respond (line : Text) (request : RequestLine) (fields : Fields) (status : Status) :
    Action (Connection world) (Option Response) := do
  dropBody fields
  noteRequest (accessLine line status.code)
  return some ⟨status.code,request.version != bareVersion,true⟩

def answer (routes : Routes world) (line : Text) (request : RequestLine) :
    Action (Connection world) (Option Response) := do
  let (result,rest) := readSection maxHeaderLines (← Action.current).stream
  Action.change fun connection => ⟨rest,connection.bodyRead,connection.behind⟩
  let isHead := request.method == "HEAD"
  match result with
  | .error .lineTooLong => refuse line request.version isHead 431 "Line too long"
  | .error .tooManyLines => refuse line request.version isHead 431 "Too many headers"
  | .ok raw =>
    let fields := ofSection raw
    if isRouted request.method then
      let status ← statusOf routes request fields
      respond line request fields status
    else
      refuse line request.version isHead 501
        ("Unsupported method (" ++ Quoted.text request.method ++ ")")

def serve (routes : Routes world) : Action (Connection world) (Option Response) := do
  let (raw,rest) := readLine (maxHeaderLine + 1) (← Action.current).stream
  Action.change fun connection => ⟨rest,connection.bodyRead,connection.behind⟩
  if maxHeaderLine < raw.length then refuse [] [] false 414 "Request-URI Too Long"
  else
    let line := Text.trimEnd isLineEnd (Quoted.latin raw)
    if (words line).isEmpty then return none
    else
      match RequestLine.ofLine line with
      | .error refusal =>
        refuse line refusal.version false refusal.fault.status refusal.fault.message
      | .ok request => answer routes line request

end Connection
end BotGateway.Http
