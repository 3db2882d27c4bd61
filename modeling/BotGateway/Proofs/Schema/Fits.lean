import BotGateway.Proofs.Schema.Endings
import BotGateway.Proofs.Schema.Gathered
import BotGateway.Proofs.Schema.Regular

/-! What a value is like that came out of a check: it has the form that its shape asks for, at every
depth. This needs no more than that the records passed in came out of checks themselves. -/
namespace BotGateway

inductive Fits : Shape → Value → Prop where
  | boolean (b : Bool) : Fits .boolean (.bool b)
  | integer (n : Int) : Fits .integer (.int n)
  | text (t : Text) : Fits .text (.text t)
  | constant (t : Text) : Fits (.constant t) (.text t)
  | always : Fits .always (.bool true)
  | absent (shape : Shape) : Fits (.optional shape) .null
  | present {shape : Shape} {value : Value} (notNull : value.isNull = false)
      (fits : Fits shape value) : Fits (.optional shape) value
  | listOf {shape : Shape} {items : List Value} (all : ∀ item ∈ items, Fits shape item) :
      Fits (.listOf shape) (.list items)
  | record {kind : RecordKind} {pairs : List (Field × Value)} (fields : pairs.map (·.1) = kind.fields)
      (all : ∀ pair ∈ pairs, Fits pair.1.shape pair.2) :
      Fits (.record kind) (.record kind (pairs.map fun pair => (pair.1.name,pair.2)))
  | file (file : InputFile) : Fits .file (.file file)
  | oneOf {members : List Shape} {member : Shape} {value : Value} (among : member ∈ members)
      (fits : Fits member value) : Fits (.oneOf members) value
  | tagged {set : VariantSet} {tag : Text} {kind : RecordKind} {fields : List (Text × Value)}
      (variant : (tag,kind) ∈ set.variants) (fits : Fits (.record kind) (.record kind fields)) :
      Fits (.tagged set) (.record kind fields)

def Shape.isPlain : Shape → Bool
  | .integer | .text | .file => true
  | _ => false

theorem Shape.plainRegular {shape : Shape} (plain : shape.isPlain = true) :
    shape.isRegular = true := by
  cases shape <;> first | rfl | cases plain

theorem Shape.unionMembers {members : List Shape} (solid : (Shape.oneOf members).isSolid = true) :
    members = [.integer,.text] ∨ members = [.file,.text] := by
  unfold Shape.isSolid at solid
  split at solid <;> simp_all

theorem Shape.unionPlain {members : List Shape} (solid : (Shape.oneOf members).isSolid = true) :
    members ≠ [] ∧ ∀ member ∈ members, member.isPlain = true := by
  rcases Shape.unionMembers solid with rfl | rfl <;> simp [Shape.isPlain]

theorem Fits.plainNotNull {shape : Shape} {value : Value} (plain : shape.isPlain = true)
    (fits : Fits shape value) : value.isNull = false := by
  cases fits <;> first | rfl | cases plain

theorem Fits.solidNotNull {shape : Shape} {value : Value} (fits : Fits shape value)
    (solid : shape.isSolid = true) : value.isNull = false := by
  cases fits with
  | absent => cases solid
  | present notNull => exact notNull
  | oneOf among fits => exact fits.plainNotNull ((Shape.unionPlain solid).2 _ among)
  | _ => rfl

theorem Fits.recordNames {kind : RecordKind} {fields : List (Text × Value)}
    (fits : Fits (.record kind) (.record kind fields)) :
    fields.map (·.1) = kind.fields.map (·.name) := by
  cases fits with
  | record same all =>
    rw [← same,List.map_map,List.map_map]
    rfl

theorem Fits.namesApart {kind : RecordKind} (wire : kind.isWire = true) {fields : List (Text × Value)}
    (fits : Fits (.record kind) (.record kind fields)) : (fields.map (·.1)).Nodup := by
  rw [fits.recordNames]
  exact (RecordKind.wireNames wire).1

namespace Verdict

structure Yields (shape : Shape) (verdict : Verdict) : Prop where
  explained : verdict.Explained
  fits : ∀ value, verdict.Takes value → Fits shape value

theorem yieldsIssue (shape : Shape) (cause : Issue.Cause) : (issue cause).Yields shape :=
  ⟨rfl,by rintro _ ⟨_,⟨⟩,_⟩⟩

theorem yieldsAsIs {shape : Shape} {value : Value} (fits : Fits shape value) :
    (asIs value).Yields shape :=
  ⟨trivial,by rintro _ ⟨_,⟨⟩,rfl⟩; exact fits⟩

theorem yieldsAborted (shape : Shape) (failure : Failure) : (aborted failure).Yields shape :=
  ⟨trivial,by rintro _ ⟨_,⟨⟩,_⟩⟩

theorem yieldsScalar {α : Type} {shape : Shape} {wrap : α → Value} (fits : ∀ a, Fits shape (wrap a))
    (found : Except Issue.Cause (α × Bool)) : (scalar wrap found).Yields shape := by
  cases found with
  | error cause => exact yieldsIssue shape cause
  | ok result => exact ⟨trivial,by rintro _ ⟨_,⟨⟩,rfl⟩; exact fits result.1⟩

theorem yieldsUnder {shape : Shape} {verdict : Verdict} (step : Step)
    (yields : verdict.Yields shape) : (verdict.under step).Yields shape :=
  ⟨underExplained step yields.explained,fun value takes => yields.fits value (takenUnder takes)⟩

theorem gatheredYields {shape : Shape} {verdicts : List Verdict}
    (each : ∀ verdict ∈ verdicts, verdict.Yields shape) :
    (ofGathered .list (gather verdicts)).Yields (.listOf shape) := by
  refine ⟨ofGatheredExplained _ _,fun value takes => ?_⟩
  obtain ⟨values,rfl,taken⟩ := ofGatheredTaken (fun verdict member => (each verdict member).explained) takes
  refine .listOf fun item member => ?_
  obtain ⟨verdict,among,takes⟩ := (relatedMembers taken).2 item member
  exact (each verdict among).fits item takes

end Verdict

def Checker.Yields (check : Checker) : Prop :=
  ∀ shape, shape.isRegular = true → (check shape).Yields shape

section Entries
variable {entries : List (Value × Checker)}

theorem Field.defaultFits {field : Field} (regular : field.isRegular = true) {value : Value}
    (default : field.default = some value) : Fits field.shape value := by
  unfold Field.isRegular at regular
  split at regular
  · rename_i shape given
    cases given.symm.trans default
    rw [shape]
    exact .absent _
  · rename_i shape given
    cases given.symm.trans default
    rw [shape,beq_iff_eq.mp regular]
    exact .constant _
  · rename_i shape given
    cases given.symm.trans default
    rw [shape]
    exact .always
  · rename_i given
    cases given.symm.trans default
  · cases regular

theorem Field.checkYields {field : Field} (regular : field.isRegular = true)
    (yields : ∀ entry ∈ entries, Checker.Yields entry.2) :
    (field.check entries).1.Yields field.shape := by
  unfold Field.check
  split
  · rename_i key check found
    obtain ⟨entry,member,rfl⟩ := Field.foundAmong found
    exact Verdict.yieldsUnder _ (yields entry member field.shape (Field.shapeRegular regular))
  · split
    · rename_i default
      exact Verdict.yieldsAsIs (Field.defaultFits regular default)
    · exact ⟨rfl,by rintro _ ⟨_,⟨⟩,_⟩⟩

theorem RecordKind.buildYields {kind : RecordKind} (wire : kind.isWire = true)
    (yields : ∀ entry ∈ entries, Checker.Yields entry.2) :
    (kind.build entries).Yields (.record kind) := by
  have regular := List.all_eq_true.mp (RecordKind.wireRegular wire)
  have checked : ∀ field ∈ kind.fields, (field.check entries).1.Yields field.shape :=
    fun field member => Field.checkYields (regular field member) yields
  refine ⟨RecordKind.buildExplained,fun value takes => ?_⟩
  obtain ⟨values,rfl,taken⟩ := RecordKind.built (fun field member => (checked field member).explained) takes
  obtain ⟨length,pairs⟩ := List.forall₂_iff_zip.mp taken
  have fields : (kind.fields.zip values).map (·.1) = kind.fields := List.map_fst_zip (by omega)
  rw [List.zip_map_left]
  refine .record fields fun pair member => ?_
  exact (checked pair.1 (List.of_mem_zip member).1).fits pair.2 (pairs member)

theorem InputFile.buildYields : (InputFile.build entries).Yields .file := by
  unfold InputFile.build
  dsimp only
  split
  · exact Verdict.yieldsAborted _ _
  · split
    · rename_i filled
      exact ⟨by simpa [Verdict.Explained] using filled,by rintro _ ⟨_,⟨⟩,_⟩⟩
    · split
      · exact Verdict.yieldsIssue _ _
      · exact ⟨trivial,by rintro _ ⟨_,⟨⟩,rfl⟩; exact .file _⟩

theorem VariantSet.buildFits {set : VariantSet} (builtin : set ∈ VariantSet.builtin)
    (yields : ∀ entry ∈ entries, Checker.Yields entry.2) {value variant : Value}
    (built : set.build value entries = .ok variant) : Fits (.tagged set) variant := by
  obtain ⟨tag,_,built⟩ := exceptOk.mp built
  obtain ⟨kind,resolved,built⟩ := exceptOk.mp built
  obtain ⟨t,_,found⟩ := VariantSet.resolved resolved
  obtain ⟨before,after,same,_⟩ := List.lookup_eq_some_iff.mp found
  have variant : (t,kind) ∈ set.variants := same ▸ by simp
  split at built
  · rename_i result accepted
    cases built
    have fits := (RecordKind.buildYields (VariantSet.builtinShows builtin variant).wire yields).fits
      _ ⟨result,accepted,rfl⟩
    generalize result.value = value at fits
    cases fits with
    | record fields all => exact .tagged variant (.record fields all)
  · cases built
  · cases built

end Entries

namespace Verdict

theorem chooseYields {shape : Shape} {members : List (Text × Verdict)} {best : Option Accepted}
    {issues : List Issue} (taken : ∀ result ∈ best, Fits shape result.value)
    (filled : best = none → issues.isEmpty = false ∨ members ≠ [])
    (yields : ∀ member ∈ members, member.2.Yields shape) :
    (choose best issues members).Yields shape := by
  -- a best one that was found stays, so the findings count only as long as there is none
  induction members generalizing best issues with
  | nil =>
    cases best with
    | none => exact ⟨by simpa [Explained,choose] using filled rfl,by rintro _ ⟨_,⟨⟩,_⟩⟩
    | some result => exact ⟨trivial,by rintro _ ⟨_,⟨⟩,rfl⟩; exact taken result rfl⟩
  | cons member rest ih =>
    obtain ⟨label,verdict⟩ := member
    have first : verdict.Yields shape := yields _ List.mem_cons_self
    have later := fun member stands => yields member (List.mem_cons_of_mem _ stands)
    cases verdict with
    | aborted failure => exact yieldsAborted _ _
    | rejected found =>
      have reasons : found.isEmpty = false := first.explained
      exact ih taken (fun _ => .inl (by simpa using fun _ => by simpa using reasons)) later
    | accepted result =>
      have fits : Fits shape result.value := first.fits _ ⟨result,rfl,rfl⟩
      simp only [choose]
      split
      · exact ⟨trivial,by rintro _ ⟨_,⟨⟩,rfl⟩; exact fits⟩
      · cases best with
        | none => exact ih (by rintro _ ⟨⟩; exact fits) (fun none => by cases none) later
        | some current =>
          refine ih ?_ (fun none => by cases none) later
          rintro _ ⟨⟩
          split
          · exact fits
          · exact taken current rfl

end Verdict

namespace Value

theorem conformAllMapped (value : Value) (parts : Parts) (shapes : List Shape) :
    conformAll value parts shapes = shapes.map fun shape => (shape.title,conform value parts shape) := by
  induction shapes with
  | nil => rfl
  | cons shape rest ih => rw [conformAll,ih,List.map_cons]

section Conform
variable {value : Value} {parts : Parts}

theorem conformPlain {shape : Shape} (plain : shape.isPlain = true) :
    (conform value parts shape).Yields shape := by
  cases shape with
  | integer => exact Verdict.yieldsScalar .integer _
  | text => exact Verdict.yieldsScalar .text _
  | file =>
    unfold conform
    split
    · exact InputFile.buildYields
    · exact Verdict.yieldsAsIs (.file _)
    · exact Verdict.yieldsIssue _ _
  | _ => cases plain

theorem conformUnion {members : List Shape} (some : members ≠ [])
    (plain : ∀ member ∈ members, member.isPlain = true) :
    (conform value parts (.oneOf members)).Yields (.oneOf members) := by
  rw [conform,conformAllMapped]
  refine Verdict.chooseYields (by simp) (fun _ => .inr (by simpa using some)) ?_
  rw [List.forall_mem_map]
  intro member among
  have yields : (conform value parts member).Yields member := conformPlain (plain member among)
  exact ⟨yields.explained,fun result takes => .oneOf among (yields.fits result takes)⟩

theorem conformSolid (items : ∀ check ∈ parts.items, Checker.Yields check)
    (entries : ∀ entry ∈ parts.entries, Checker.Yields entry.2)
    (own : ∀ kind fields, value = .record kind fields → kind.isWire = true → Fits (.record kind) value)
    {shape : Shape} (solid : shape.isSolid = true) : (conform value parts shape).Yields shape := by
  cases shape with
  | boolean => exact Verdict.yieldsScalar .boolean _
  | integer | text | file => exact conformPlain rfl
  | constant expected =>
    unfold conform
    split
    · rename_i same
      cases value with
      | text t =>
        rw [isKey,beq_iff_eq] at same
        exact Verdict.yieldsAsIs (same ▸ .constant t)
      | _ => cases same
    · exact Verdict.yieldsIssue _ _
  | always =>
    unfold conform
    split
    · exact Verdict.yieldsAsIs .always
    · exact Verdict.yieldsIssue _ _
  | listOf shape =>
    have each : ∀ verdict ∈ parts.items.mapIdx fun i check => (check shape).under (.index i),
        verdict.Yields shape := by
      intro verdict member
      obtain ⟨i,bound,rfl⟩ := List.mem_mapIdx.mp member
      exact Verdict.yieldsUnder _ (items _ (List.getElem_mem bound) shape (Shape.solidRegular solid))
    unfold conform
    split <;> first | exact Verdict.gatheredYields each | exact Verdict.yieldsIssue _ _
  | record kind =>
    unfold conform
    split
    · exact RecordKind.buildYields solid entries
    · split
      · rename_i same
        obtain rfl := same
        exact Verdict.yieldsAsIs (own _ _ rfl solid)
      · exact Verdict.yieldsIssue _ _
    · exact Verdict.yieldsIssue _ _
  | oneOf members => exact conformUnion (Shape.unionPlain solid).1 (Shape.unionPlain solid).2
  | tagged set =>
    have builtin : set ∈ VariantSet.builtin := List.contains_iff_mem.mp solid
    unfold conform
    split
    · rename_i admitted
      cases value with
      | record kind fields =>
        obtain ⟨⟨tag,listed⟩,variant,same⟩ := List.any_eq_true.mp admitted
        obtain rfl : listed = kind := beq_iff_eq.mp same
        exact Verdict.yieldsAsIs
          (.tagged variant (own _ fields rfl (VariantSet.builtinShows builtin variant).wire))
      | _ => cases admitted
    · split
      · rename_i built
        exact Verdict.yieldsAsIs (VariantSet.buildFits builtin entries built)
      · exact Verdict.yieldsIssue _ _
      · exact Verdict.yieldsAborted _ _
  | anything | optional => cases solid

theorem conformYields (items : ∀ check ∈ parts.items, Checker.Yields check)
    (entries : ∀ entry ∈ parts.entries, Checker.Yields entry.2)
    (own : ∀ kind fields, value = .record kind fields → kind.isWire = true → Fits (.record kind) value) :
    Checker.Yields (conform value parts) := by
  intro shape regular
  unfold Shape.isRegular at regular
  split at regular
  · rename_i shape
    rw [conform]
    split
    · exact Verdict.yieldsAsIs (.absent shape)
    · have yields := conformSolid items entries own regular
      exact ⟨yields.explained,fun result takes =>
        have fits := yields.fits result takes
        .present (fits.solidNotNull regular) fits⟩
  · exact conformSolid items entries own regular

end Conform

inductive Built : Value → Prop where
  | null : Built .null
  | bool (b : Bool) : Built (.bool b)
  | int (n : Int) : Built (.int n)
  | float (x : Binary64) : Built (.float x)
  | text (t : Text) : Built (.text t)
  | bytes (raw : Bytes) : Built (.bytes raw)
  | list {items : List Value} (all : ∀ item ∈ items, Built item) : Built (.list items)
  | tuple {items : List Value} (all : ∀ item ∈ items, Built item) : Built (.tuple items)
  | set {items : List Value} (all : ∀ item ∈ items, Built item) : Built (.set items)
  | map {entries : List (Value × Value)} (all : ∀ entry ∈ entries, Built entry.2) :
      Built (.map entries)
  | record {kind : RecordKind} {fields : List (Text × Value)} {given : Value} (built : Built given)
      (valid : (Shape.record kind).validate given = .ok (.record kind fields)) :
      Built (.record kind fields)
  | file (file : InputFile) : Built (.file file)
  | source (source : Source) : Built (.source source)
  | bare : Built .bare

theorem checkItemsMapped (items : List Value) : checkItems items = items.map check := by
  induction items with
  | nil => rfl
  | cons item rest ih => rw [checkItems,ih,List.map_cons]

theorem checkEntriesMapped (entries : List (Value × Value)) :
    checkEntries entries = entries.map fun entry => (entry.1,entry.2.check) := by
  induction entries with
  | nil => rfl
  | cons entry rest ih => rw [checkEntries,ih,List.map_cons]

theorem validTakes {kind : RecordKind} {given value : Value}
    (valid : (Shape.record kind).validate given = .ok value) :
    (given.check (.record kind)).Takes value := by
  unfold Shape.validate at valid
  split at valid
  · rename_i result accepted
    cases valid
    exact ⟨result,accepted,rfl⟩
  · cases valid
  · cases valid

theorem takesValid {kind : RecordKind} {given value : Value}
    (takes : (given.check (.record kind)).Takes value) :
    (Shape.record kind).validate given = .ok value := by
  obtain ⟨result,accepted,rfl⟩ := takes
  rw [Shape.validate,accepted]

theorem Built.yields {value : Value} (built : Built value) : Checker.Yields value.check := by
  induction built with
  | list all ih | tuple all ih | set all ih =>
    simp only [check]
    refine conformYields ?_ (by simp) (by rintro _ _ ⟨⟩)
    rw [checkItemsMapped,List.forall_mem_map]
    exact ih
  | map all ih =>
    simp only [check]
    refine conformYields (by simp) ?_ (by rintro _ _ ⟨⟩)
    rw [checkEntriesMapped,List.forall_mem_map]
    exact ih
  | @record kind fields given built valid ih =>
    -- a record is taken as it is, so it fits because the value that it was made of did
    refine conformYields (by simp) (by simp) ?_
    rintro _ _ ⟨⟩ wire
    exact (ih (.record kind) wire).fits _ (validTakes valid)
  | _ => exact conformYields (by simp) (by simp) (by rintro _ _ ⟨⟩)

theorem Built.fits {kind : RecordKind} {fields : List (Text × Value)} (wire : kind.isWire = true)
    (built : Built (.record kind fields)) : Fits (.record kind) (.record kind fields) := by
  cases built with
  | record built valid => exact (built.yields (.record kind) wire).fits _ (validTakes valid)

theorem Built.decoded {set : VariantSet} {kind : RecordKind} {fields : List (Text × Value)}
    {given : Value} (built : Built given) (decoded : set.decode given = .ok (.record kind fields)) :
    Built (.record kind fields) := by
  cases given with
  | map entries =>
    obtain ⟨tag,_,decoded⟩ := exceptOk.mp decoded
    obtain ⟨found,_,decoded⟩ := exceptOk.mp decoded
    split at decoded
    · rename_i result accepted
      have value : result.value = .record kind fields := Except.ok.inj decoded
      obtain ⟨_,same⟩ := RecordKind.buildRecord ⟨result,accepted,value⟩
      cases same
      exact .record built (takesValid ⟨result,accepted,value⟩)
    · cases decoded
    · cases decoded
  | _ =>
    obtain ⟨_,⟨⟩,_⟩ := exceptOk.mp decoded

end Value
end BotGateway
