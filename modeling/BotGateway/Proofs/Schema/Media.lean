import BotGateway.Proofs.Request.LocalFiles
import BotGateway.Proofs.Schema.Fits

/-! Where files can stand in a value that fits a shape. Of all records on the wire only media hold
files, and each file of theirs is a member itself: the medium or its thumbnail. -/
namespace BotGateway

def RecordKind.isFileless : RecordKind → Bool
  | .envelope | .mediaPhoto | .mediaVideo | .mediaAnimation | .mediaAudio | .mediaDocument => false
  | _ => true

namespace Shape

def isScalar : Shape → Bool
  | .boolean | .integer | .text | .constant _ | .always => true
  | _ => false

def isFileless : Shape → Bool
  | .optional shape | .listOf shape => isFileless shape
  | .record kind => kind.isFileless
  | .tagged variants => variants.variants.all fun (_,kind) => kind.isFileless
  | .oneOf members => members.all isScalar
  | shape => shape.isScalar

def isFileRef : Shape → Bool
  | .oneOf [.file,.text] | .optional (.oneOf [.file,.text]) => true
  | _ => false

theorem scalarFileless {shape : Shape} (scalar : shape.isScalar = true) : shape.isFileless = true := by
  cases shape <;> first | rfl | cases scalar

end Shape

def Field.isMedium (field : Field) : Bool :=
  field.shape.isFileRef && (field.name == ("media" : Text) || field.name == ("thumbnail" : Text))

namespace RecordKind

theorem filelessFields {kind : RecordKind} (fileless : kind.isFileless = true) :
    kind.fields.all (fun field => field.shape.isFileless) = true := by
  cases kind with
  | custom name pairs => simp [fields,Shape.isFileless,Shape.isScalar]
  | _ => first | rfl | cases fileless

theorem mediaFields {tag : Text} {kind : RecordKind}
    (variant : (tag,kind) ∈ VariantSet.inputMedia.variants) :
    kind.fields.all (fun field => field.shape.isFileless || field.isMedium) = true := by
  have all : VariantSet.inputMedia.variants.all (fun (_,kind) =>
      kind.fields.all fun field => field.shape.isFileless || field.isMedium) = true := by
    decide +kernel
  exact List.all_eq_true.mp all _ variant

end RecordKind

section Files
open Value
variable {shape : Shape} {value : Value} {trail : Trail} {f : InputFile}

theorem Fits.fileless (fits : Fits shape value) (plain : shape.isFileless = true) : value.Fileless := by
  induction fits with
  | boolean | integer | text | constant | always | absent =>
    exact .below (by rintro _ ⟨⟩) (by simp [children,Value.members])
  | present notNull fits ih => exact ih plain
  | @listOf shape items all ih =>
    exact .below (by rintro _ ⟨⟩) fun child member => ih child.2 (itemOfChild member) plain
  | @record kind pairs fields all ih =>
    have plain : kind.isFileless = true := plain
    have none := List.all_eq_true.mp (RecordKind.filelessFields plain)
    refine .below (by rintro _ ⟨⟩) fun child member => ?_
    obtain ⟨pair,paired,rfl⟩ := List.mem_map.mp (List.mem_filter.mp member).1
    exact ih pair paired (none pair.1 (fields ▸ List.mem_map_of_mem paired))
  | file => cases plain
  | @oneOf members member value among fits ih =>
    have scalar : members.all Shape.isScalar = true := plain
    exact ih (Shape.scalarFileless (List.all_eq_true.mp scalar member among))
  | @tagged variants tag kind fields variant fits ih =>
    have plain : variants.variants.all (fun (_,kind) => kind.isFileless) = true := plain
    exact ih (List.all_eq_true.mp plain _ variant)

theorem Fits.fileAlone (fits : Fits shape value) (reference : shape.isFileRef = true)
    (within : value.Within trail (.file f)) : trail = [] := by
  have union {value : Value} (fits : Fits (.oneOf [.file,.text]) value)
      (within : value.Within trail (.file f)) : trail = [] := by
    cases fits with
    | oneOf among fits =>
      simp only [List.mem_cons,List.not_mem_nil,or_false] at among
      rcases among with rfl | rfl
      · cases fits
        exact (withinFile.mp within).1
      · exact absurd within (fits.fileless rfl trail f)
  unfold Shape.isFileRef at reference
  split at reference
  · exact union fits within
  · cases fits with
    | absent => cases within with | inside placed => simp [children,Value.members] at placed
    | present notNull fits => exact union fits within
  · cases reference

theorem Fits.mediaFile (fits : Fits (.tagged .inputMedia) value)
    (within : value.Within trail (.file f)) :
    ∃ i name, trail = [(i,name)] ∧ (name = ("media" : Text) ∨ name = ("thumbnail" : Text)) := by
  cases fits with
  | @tagged _ tag kind fields variant fits =>
    have listed := List.all_eq_true.mp (RecordKind.mediaFields variant)
    cases fits with
    | @record kind pairs fields all =>
      cases within with
      | @inside _ i name child rest _ placed next =>
        obtain ⟨pair,paired,same⟩ :=
          List.mem_map.mp (List.mem_filter.mp (List.mem_of_getElem? placed)).1
        cases same
        have fitting := all pair paired
        have field := listed pair.1 (fields ▸ List.mem_map_of_mem paired)
        rcases Bool.or_eq_true_iff.mp field with plain | medium
        · exact absurd next (fitting.fileless plain _ f)
        · obtain ⟨reference,called⟩ := Bool.and_eq_true_iff.mp medium
          refine ⟨i,pair.1.name,?_,by simpa using called⟩
          rw [fitting.fileAlone reference next]

theorem Fits.keyed (fits : Fits shape value) (regular : shape.isRegular = true) : value.Keyed := by
  have leaf {value : Value} (bare : value.members = []) (below : value.children = []) :
      value.Keyed := .node (by simp [bare]) (by simp [below])
  induction fits with
  | boolean | integer | text | constant | always | absent => exact leaf rfl rfl
  | present notNull fits ih => exact ih (Shape.solidRegular regular)
  | @listOf shape items all ih =>
    exact .node .nil fun child member =>
      ih child.2 (itemOfChild member) (Shape.solidRegular regular)
  | @record kind pairs fields all ih =>
    have regular : kind.isWire = true := regular
    have regularFields := List.all_eq_true.mp (RecordKind.wireRegular regular)
    refine .node ?_ fun child member => ?_
    · exact ((Fits.record fields all).namesApart regular).sublist (List.filter_sublist.map _)
    · obtain ⟨pair,paired,rfl⟩ := List.mem_map.mp (List.mem_filter.mp member).1
      exact ih pair paired
        (Field.shapeRegular (regularFields pair.1 (fields ▸ List.mem_map_of_mem paired)))
  | file f => exact .ofFile f
  | @oneOf members member value among fits ih =>
    exact ih (Shape.plainRegular ((Shape.unionPlain regular).2 member among))
  | @tagged variants tag kind fields variant fits ih =>
    exact ih (VariantSet.builtinShows (List.contains_iff_mem.mp regular) variant).wire

end Files
end BotGateway
