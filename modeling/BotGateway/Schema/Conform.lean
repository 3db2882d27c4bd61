import BotGateway.Failure
import BotGateway.Schema.Scalar
import BotGateway.Schema.Shape

/-! Whether a value fits a shape, and the value it becomes. Findings are collected in order; a
failure of a variant set ends the whole check. Only a tag too long to be shown is a finding. -/
namespace BotGateway

structure Accepted where
  value : Value
  exact : Bool
  given : Option Nat

inductive Verdict where
  | accepted (result : Accepted)
  | rejected (issues : List Issue)
  | aborted (failure : Failure)

abbrev Checker := Shape → Verdict

structure Parts where
  items : List Checker
  entries : List (Value × Checker)

namespace Verdict

def scalar (wrap : α → Value) : Except Issue.Cause (α × Bool) → Verdict
  | .ok (a,exact) => .accepted ⟨wrap a,exact,none⟩
  | .error cause => .rejected [⟨[],cause⟩]

def asIs (value : Value) : Verdict := .accepted ⟨value,true,none⟩

def issue (cause : Issue.Cause) : Verdict := .rejected [⟨[],cause⟩]

def under (step : Step) : Verdict → Verdict
  | .rejected issues => .rejected (issues.map (·.under step))
  | other => other

def addGiven (a b : Option Nat) : Option Nat :=
  match a, b with
  | some m, some n => some (m + n)
  | some m, none => some m
  | none, b => b

structure Gathered where
  values : List Value
  issues : List Issue
  exact : Bool
  given : Option Nat

def gather : List Verdict → Except Failure Gathered
  | [] => .ok ⟨[],[],true,none⟩
  | .aborted failure :: _ => .error failure
  | .rejected issues :: rest => do
    let tail ← gather rest
    return {tail with issues := issues ++ tail.issues}
  | .accepted a :: rest => do
    let tail ← gather rest
    return ⟨a.value :: tail.values,tail.issues,a.exact && tail.exact,addGiven a.given tail.given⟩

def ofGathered (wrap : List Value → Value) : Except Failure Gathered → Verdict
  | .error failure => .aborted failure
  | .ok found =>
    if found.issues.isEmpty then .accepted ⟨wrap found.values,found.exact,found.given⟩
    else .rejected found.issues

def better (current next : Accepted) : Bool :=
  match current.given, next.given with
  | some m, some n => if m = n then !current.exact && next.exact else m < n
  | _, _ => !current.exact && next.exact

def choose (best : Option Accepted) (issues : List Issue) : List (Text × Verdict) → Verdict
  | [] =>
    match best with
    | some a => .accepted a
    | none => .rejected issues
  | (_,.aborted failure) :: _ => .aborted failure
  | (label,.rejected found) :: rest =>
    choose best (issues ++ found.map (·.under (.field label))) rest
  | (_,.accepted a) :: rest =>
    if a.exact && a.given.isNone then .accepted a
    else
      match best with
      | none => choose (some a) issues rest
      | some current => choose (some (if better current a then a else current)) issues rest

end Verdict

def Field.find? (field : Field) (entries : List (Value × Checker)) : Option (Text × Checker) :=
  match Value.entry? field.name entries with
  | some check => some (field.name,check)
  | none =>
    let other := Value.attributeName field.name
    (Value.entry? other entries).map (other,·)

def Field.check (field : Field) (entries : List (Value × Checker)) : Verdict × Bool :=
  match field.find? entries with
  | some (key,check) => ((check field.shape).under (.field key),true)
  | none =>
    match field.default with
    | some value => (.accepted ⟨value,true,none⟩,false)
    | none => (.rejected [⟨[.field field.name],.missing⟩],false)

namespace RecordKind

def build (kind : RecordKind) (entries : List (Value × Checker)) : Verdict :=
  let checked := kind.fields.map (·.check entries)
  match Verdict.gather (checked.map (·.1)) with
  | .error failure => .aborted failure
  | .ok found =>
    if found.issues.isEmpty then
      let given := (checked.filter (·.2)).length
      .accepted ⟨.record kind ((kind.fields.map (·.name)).zip found.values),false,
        Verdict.addGiven (some given) found.given⟩
    else .rejected found.issues

end RecordKind

namespace InputFile

def fields : List Field := [
  Field.optional "file_id" .text,Field.optional "url" .text,Field.optional "file" .anything]

def checkContent : Verdict → Verdict
  | .accepted a =>
    match a.value with
    | .null | .source _ => .accepted a
    | _ => .rejected [⟨[.field "file"],.notSource⟩]
  | other => other

def ofValues : List Value → InputFile
  | [fileId,url,content] =>
    ⟨match fileId with | .text t => some t | _ => none,
      match url with | .text t => some t | _ => none,
      match content with | .source s => some s | _ => none⟩
  | _ => ⟨none,none,none⟩

def build (entries : List (Value × Checker)) : Verdict :=
  let checked := fields.map (·.check entries)
  let verdicts := (checked.map (·.1)).modify 2 checkContent
  match Verdict.gather verdicts with
  | .error failure => .aborted failure
  | .ok found =>
    if !found.issues.isEmpty then .rejected found.issues
    else
      let file := ofValues found.values
      if file.isLocal && file.content.isNone then Verdict.issue .noReference
      else .accepted ⟨.file file,false,some (checked.filter (·.2)).length⟩

end InputFile

namespace VariantSet

def kindOf? (set : VariantSet) : Value → Option RecordKind
  | .text tag => set.variants.lookup tag
  | _ => none

def unknown (set : VariantSet) (tag : Value) : Failure :=
  match tag.toJson true with
  | .ok json => .unknownTag set.name set.field tag (json.write Json.spaced)
  | .error cause => .unwritable cause

def resolve (set : VariantSet) (tag : Value) : Except Failure RecordKind :=
  match set.kindOf? tag with
  | some kind => .ok kind
  | none => .error (set.unknown tag)

def peek (set : VariantSet) : Value → Except Failure Value
  | .map entries => .ok ((Value.entry? set.field entries).getD .null)
  | other => .error (.notObject set.name other.typeName)

def build (set : VariantSet) (value : Value) (entries : List (Value × Checker)) :
    Except Failure Value := do
  let tag ← set.peek value
  let kind ← set.resolve tag
  match kind.build entries with
  | .accepted a => .ok a.value
  | .rejected issues => .error (.badVariant set.name kind.name ⟨kind.name,issues⟩)
  | .aborted failure => .error failure

def admits (set : VariantSet) : Value → Bool
  | .record kind _ => set.variants.any (·.2 == kind)
  | _ => false

end VariantSet

namespace Value

mutual

def conform (value : Value) (parts : Parts) : Shape → Verdict
  | .boolean => .scalar .bool (Scalar.boolean value)
  | .integer => .scalar .int (Scalar.integer value)
  | .text => .scalar .text (Scalar.text value)
  | .anything => .asIs value
  | .constant expected => if isKey expected value then .asIs value else .issue .notLiteral
  | .always => if value.integral? = some 1 then .asIs (.bool true) else .issue .notLiteral
  | .optional shape => if value.isNull then .asIs .null else conform value parts shape
  | .listOf shape =>
    match value with
    | .list _ | .tuple _ | .set _ =>
      Verdict.ofGathered .list (Verdict.gather (parts.items.mapIdx fun i check => (check shape).under (.index i)))
    | _ => .issue .notList
  | .record kind =>
    match value with
    | .map _ => kind.build parts.entries
    | .record own _ => if own = kind then .asIs value else .issue .notRecord
    | _ => .issue .notRecord
  | .file =>
    match value with
    | .map _ => InputFile.build parts.entries
    | .file _ => .asIs value
    | _ => .issue .notRecord
  | .oneOf members => .choose none [] (conformAll value parts members)
  | .tagged variants =>
    if variants.admits value then .asIs value
    else match variants.build value parts.entries with
      | .ok variant => .asIs variant
      | .error (.unwritable .longInteger) => .issue .longTag
      | .error failure => .aborted failure

def conformAll (value : Value) (parts : Parts) : List Shape → List (Text × Verdict)
  | [] => []
  | shape :: rest => (shape.title,conform value parts shape) :: conformAll value parts rest

end

mutual

def check : Value → Checker
  | .list items => conform (.list items) ⟨checkItems items,[]⟩
  | .tuple items => conform (.tuple items) ⟨checkItems items,[]⟩
  | .set items => conform (.set items) ⟨checkItems items,[]⟩
  | .map entries => conform (.map entries) ⟨[],checkEntries entries⟩
  | other => conform other ⟨[],[]⟩

def checkItems : List Value → List Checker
  | [] => []
  | item :: rest => check item :: checkItems rest

def checkEntries : List (Value × Value) → List (Value × Checker)
  | [] => []
  | (key,value) :: rest => (key,check value) :: checkEntries rest

end

end Value

namespace Shape

def validate (shape : Shape) (value : Value) : Except Failure Value :=
  match value.check shape with
  | .accepted a => .ok a.value
  | .rejected issues => .error (.invalid ⟨shape.title,issues⟩)
  | .aborted failure => .error failure

end Shape

namespace VariantSet

def decode (set : VariantSet) (value : Value) : Except Failure Value :=
  match value with
  | .map entries => set.build value (Value.checkEntries entries)
  | _ => set.build value []

def decodeMany (set : VariantSet) : Value → Except Failure (List Value)
  | .list items => items.mapM set.decode
  | other => .error (.notArray set.name other.typeName)

def coerce (set : VariantSet) (value : Value) : Except Failure Value :=
  if set.admits value then .ok value else set.decode value

end VariantSet
end BotGateway
