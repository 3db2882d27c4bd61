import BotGateway.Json.Reader
import BotGateway.Schema.Conform

/-! The answer envelope of a call: its decoding, its text, and the result it carries. -/
namespace BotGateway

namespace Value

def field (value : Value) (name : Text) : Value :=
  match value with
  | .record _ fields => (fields.lookup name).getD .null
  | _ => .null

def int? : Value → Option Int
  | .int n => some n
  | _ => none

def text? : Value → Option Text
  | .text t => some t
  | _ => none

end Value

def RetryHint.ofValue? : Value → Option RetryHint
  | .record kind fields =>
    let hint : Value := .record kind fields
    some ⟨(hint.field "migrate_to_chat_id").int?,(hint.field "retry_after").int?⟩
  | _ => none

structure Envelope where
  ok : Bool
  result : Value
  errorCode : Option Int
  description : Option Text
  hint : Option RetryHint

namespace Envelope

def ofRecord (value : Value) : Envelope :=
  ⟨(value.field "ok").isTruthy,value.field "result",(value.field "error_code").int?,
    (value.field "description").text?,RetryHint.ofValue? (value.field "parameters")⟩

def readRecord (kind : RecordKind) (raw : Bytes) : Except Failure Value :=
  match Json.ofStrictBytes? raw with
  | none => .error (.invalid ⟨kind.name,[⟨[],.malformed⟩]⟩)
  | some json => (Shape.record kind).validate (.ofJson json)

def decode (raw : Bytes) : Except Failure Envelope :=
  match readRecord .envelope raw with
  | .ok value => .ok (ofRecord value)
  | .error (.invalid report) => .error (.badEnvelope report)
  | .error failure => .error failure

def error? (envelope : Envelope) : Option ApiError :=
  if envelope.ok then none
  else some ⟨envelope.errorCode.getD 0,envelope.description.getD [],envelope.hint⟩

def display (envelope : Envelope) : Text :=
  match envelope.error? with
  | none => "Ok: true, Result: " ++ envelope.result.quoted
  | some error => "Ok: false, Err: [" ++ error.message ++ "]"

end Envelope

inductive ResultType where
  | untyped
  | shaped (shape : Shape)
  | variant (set : VariantSet)
  | variants (set : VariantSet)

namespace ResultType

def innerName : Shape → Text
  | .boolean => "bool"
  | .integer => "int"
  | .text => "str"
  | .record kind => "tgsdk.models." ++ kind.name
  | .file => "tgsdk.models.InputFile"
  | .listOf member => "typing.List[" ++ innerName member ++ "]"
  | .oneOf members => "typing.Union[" ++ Text.join ", " (innerNames members) ++ "]"
  | shape => shape.title
where
  innerNames : List Shape → List Text
    | [] => []
    | member :: rest => innerName member :: innerNames rest

def name : Shape → Text
  | .listOf member => innerName (.listOf member)
  | .oneOf members => innerName (.oneOf members)
  | shape => "<class '" ++ innerName shape ++ "'>"

def ofName? (name : Text) : Option ResultType :=
  match Text.splitAll (':' : CodePoint) name with
  | [word,set] =>
    if word == "variant" then (VariantSet.ofName? set).map .variant
    else if word == "variants" then (VariantSet.ofName? set).map .variants
    else (Shape.ofWords? [word,set]).map .shaped
  | words => (Shape.ofWords? words).map .shaped

end ResultType

namespace Envelope

def decodeResult (envelope : Envelope) : ResultType → Except Failure Value
  | .untyped => .ok envelope.result
  | .variant set => set.decode envelope.result
  | .variants set => (set.decodeMany envelope.result).map .list
  | .shaped shape =>
    match shape.validate envelope.result with
    | .error (.invalid report) => .error (.badResult (ResultType.name shape) report)
    | other => other

end Envelope

namespace VariantSet

def decodeDocument (set : VariantSet) (raw : Bytes) : Except Failure Value :=
  match Json.ofTolerantBytes? raw with
  | none => .error (.malformedVariant set.name)
  | some json => set.decode (.ofJson json)

def register (set : VariantSet) (kind : RecordKind) : Except Failure VariantSet :=
  match (kind.fields.find? (·.name == set.field)).bind (·.default) with
  | some (.text tag) =>
    if (set.variants.lookup tag).isSome then .error (.tagTaken set.name tag)
    else .ok {set with variants := set.variants ++ [(tag,kind)]}
  | _ => .error (.noTagDefault kind.name set.field)

def fieldShape (set : VariantSet) : Except Failure Shape :=
  if set.variants.isEmpty then .error (.noVariants set.name) else .ok (.tagged set)

end VariantSet
end BotGateway
