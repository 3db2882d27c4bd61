import BotGateway.Schema.Shape
import BotGateway.Value.Display

/-! What the schema keeps to in every record kind that goes over the wire. A field is there in every
record, or absent by a null, or has one value only; names differ; and a variant shows its tag. -/
namespace BotGateway

namespace RecordKind

def isWire : RecordKind → Bool
  | .envelope | .custom .. => false
  | _ => true

end RecordKind

def Shape.isSolid : Shape → Bool
  | .boolean | .integer | .text | .constant _ | .always | .file => true
  | .listOf shape => isSolid shape
  | .record kind => kind.isWire
  | .tagged set => VariantSet.builtin.contains set
  | .oneOf [.integer,.text] | .oneOf [.file,.text] => true
  | _ => false

def Shape.isRegular : Shape → Bool
  | .optional shape => shape.isSolid
  | shape => shape.isSolid

def Field.isRegular (field : Field) : Bool :=
  match field.shape, field.default with
  | .optional shape, some .null => shape.isSolid
  | .constant tag, some (.text t) => t == tag
  | .always, some (.bool true) => true
  | shape, none => shape.isSolid
  | _, _ => false

theorem Shape.solidRegular {shape : Shape} (solid : shape.isSolid = true) :
    shape.isRegular = true := by
  cases shape <;> first | exact solid | cases solid

theorem Field.shapeRegular {field : Field} (regular : field.isRegular = true) :
    field.shape.isRegular = true := by
  unfold Field.isRegular at regular
  split at regular
  · rename_i shape _
    rw [shape]
    exact regular
  · rename_i shape _
    rw [shape]
    rfl
  · rename_i shape _
    rw [shape]
    rfl
  · exact Shape.solidRegular regular
  · cases regular

namespace RecordKind

def namesApart (kind : RecordKind) : Bool :=
  let names := kind.fields.map (·.name)
  names.Nodup && !names.contains (Value.attributeName "from")

theorem wireRegular {kind : RecordKind} (wire : kind.isWire = true) :
    kind.fields.all Field.isRegular = true := by
  cases kind <;> first | rfl | cases wire

theorem wireNames {kind : RecordKind} (wire : kind.isWire = true) :
    (kind.fields.map (·.name)).Nodup ∧ Value.attributeName "from" ∉ kind.fields.map (·.name) := by
  have apart : kind.namesApart = true := by
    cases kind <;> first | decide +kernel | cases wire
  simpa [namesApart] using apart

end RecordKind

namespace VariantSet

structure Shows (set : VariantSet) (tag : Text) (kind : RecordKind) : Prop where
  wire : kind.isWire = true
  first : ∃ others, kind.fields = ⟨set.field,.constant tag,some (.text tag)⟩ :: others
  found : set.variants.lookup tag = some kind

theorem builtinShows {set : VariantSet} (builtin : set ∈ VariantSet.builtin) {tag : Text}
    {kind : RecordKind} (variant : (tag,kind) ∈ set.variants) : set.Shows tag kind := by
  have all : ∀ set ∈ VariantSet.builtin, ∀ entry ∈ set.variants, set.Shows entry.1 entry.2 := by
    simp only [VariantSet.builtin,chatMember,menuButton,botCommandScope,reactionType,inputMedia,
      List.forall_mem_cons,List.not_mem_nil,false_imp_iff,implies_true,and_true]
    repeat' constructor
  exact all set builtin (tag,kind) variant

end VariantSet
end BotGateway
