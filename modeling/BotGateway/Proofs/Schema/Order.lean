import BotGateway.Proofs.Schema.Meetings

/-! What ends a check. The places where variants are asked for decide alone: the first of them that
does not decode ends the check with its failure, whatever was found before. -/
namespace BotGateway

namespace Shape

def unionsPlain : Shape → Bool
  | .optional shape | .listOf shape => unionsPlain shape
  | .oneOf members => !members.isEmpty && members.all isPlain
  | _ => true

end Shape

theorem RecordKind.unionsPlain (kind : RecordKind) :
    ∀ field ∈ kind.fields, field.shape.unionsPlain = true := by
  cases kind with
  | custom name fields =>
    intro field among
    obtain ⟨named,_,rfl⟩ := List.mem_map.mp among
    rfl
  | _ => exact List.all_eq_true.mp rfl

namespace Verdict

def failure? : Verdict → Option Failure
  | .aborted failure => some failure
  | _ => none

theorem underFailure (step : Step) (verdict : Verdict) :
    (verdict.under step).failure? = verdict.failure? := by
  cases verdict <;> rfl

theorem endsNever {verdict : Verdict} (ends : verdict.EndsIn fun _ => False) :
    verdict.failure? = none := by
  cases verdict with
  | aborted => exact ends.elim
  | _ => rfl

theorem gatherFailure (verdicts : List Verdict) :
    (match gather verdicts with | .error failure => some failure | .ok _ => none) =
      verdicts.findSome? failure? := by
  induction verdicts with
  | nil => rfl
  | cons verdict rest ih =>
    rw [List.findSome?_cons]
    cases verdict with
    | aborted => rfl
    | accepted | rejected =>
      refine Eq.trans ?_ ih
      rw [gather]
      cases gather rest <;> rfl

theorem gatheredFailure (wrap : List Value → Value) (verdicts : List Verdict) :
    (ofGathered wrap (gather verdicts)).failure? = verdicts.findSome? failure? := by
  rw [← gatherFailure]
  cases gather verdicts with
  | error => rfl
  | ok found =>
    rw [ofGathered]
    split <;> rfl

theorem buildFailure (kind : RecordKind) (entries : List (Value × Checker)) :
    (kind.build entries).failure? = kind.fields.findSome? fun field => (field.check entries).1.failure? := by
  have gathered := gatherFailure ((kind.fields.map (·.check entries)).map (·.1))
  rw [List.findSome?_map,List.findSome?_map] at gathered
  refine Eq.trans ?_ gathered
  rw [RecordKind.build]
  dsimp only
  cases gather ((kind.fields.map (·.check entries)).map (·.1)) with
  | error => rfl
  | ok found =>
    dsimp only
    split <;> rfl

def ofCoerced : Except Failure Value → Verdict
  | .ok variant => .asIs variant
  | .error (.unwritable .longInteger) => .issue .longTag
  | .error failure => .aborted failure

theorem ofCoercedOther {failure : Failure} (short : failure ≠ .unwritable .longInteger) :
    ofCoerced (.error failure) = .aborted failure := by
  rw [ofCoerced.eq_def]
  split
  · rename_i same
    cases same
  · rename_i same
    cases same
    exact absurd rfl short
  · rename_i same
    cases same
    rfl

theorem coercedTaken {coerced : Except Failure Value} {value : Value}
    (takes : (ofCoerced coerced).Takes value) : coerced = .ok value := by
  obtain ⟨result,accepted,rfl⟩ := takes
  rw [ofCoerced.eq_def] at accepted
  split at accepted <;> cases accepted
  rfl

theorem coercedFailure (meeting : Meeting) :
    (ofCoerced (meeting.set.coerce meeting.value)).failure? = meeting.failure? := by
  rw [Meeting.failure?]
  cases meeting.set.coerce meeting.value with
  | ok => rfl
  | error failure =>
    cases failure with
    | unwritable cause => cases cause <;> rfl
    | _ => rfl

end Verdict

namespace Meeting

def first? (meetings : List Meeting) : Option Failure := meetings.findSome? failure?

theorem firstUnder (step : Step) (meetings : List Meeting) :
    first? (meetings.map (·.under step)) = first? meetings := by
  rw [first?,List.findSome?_map]
  rfl

theorem firstAppended (before after : List Meeting) :
    first? (before ++ after) = (first? before).or (first? after) := by
  rw [first?,List.findSome?_append,← first?,← first?]

theorem firstFlattened {α : Type} (find : α → List Meeting) (sources : List α) :
    first? (sources.flatMap find) = sources.findSome? fun source => first? (find source) := by
  induction sources with
  | nil => rfl
  | cons source rest ih =>
    rw [List.flatMap_cons,firstAppended,List.findSome?_cons,ih]
    cases first? (find source) <;> rfl

theorem failsCoerced {meeting : Meeting} {failure : Failure} :
    meeting.failure? = some failure ↔ meeting.set.coerce meeting.value = .error failure ∧
      failure ≠ .unwritable .longInteger := by
  rw [← Verdict.coercedFailure]
  cases meeting.set.coerce meeting.value with
  | ok => simp [Verdict.ofCoerced,Verdict.asIs,Verdict.failure?]
  | error cause =>
    by_cases long : cause = .unwritable .longInteger
    · subst long
      simp [Verdict.ofCoerced,Verdict.issue,Verdict.failure?,eq_comm]
    · rw [Verdict.ofCoercedOther long,Verdict.failure?]
      constructor
      · rintro ⟨⟩
        exact ⟨rfl,long⟩
      · rintro ⟨⟨⟩,_⟩
        rfl

end Meeting

namespace Value

def Ordered (value : Value) : Prop :=
  ∀ shape : Shape, shape.unionsPlain = true →
    (value.check shape).failure? = Meeting.first? (value.meetings shape)

theorem itemsOrdered {items : List Value} (ordered : ∀ item ∈ items, item.Ordered) (shape : Shape)
    (plain : shape.unionsPlain = true) (step : Nat → Step) :
    ((items.map check).mapIdx fun i check => (check shape).under (step i)).findSome? Verdict.failure? =
      Meeting.first? ((items.map meetings).mapIdx fun i find => (find shape).map (·.under (step i))).flatten := by
  induction items generalizing step with
  | nil => rfl
  | cons item rest ih =>
    have own := ordered item List.mem_cons_self shape plain
    have later := ih (fun item member => ordered item (.tail _ member)) fun i => step (i + 1)
    rw [List.map_cons,List.mapIdx_cons,List.findSome?_cons,Verdict.underFailure,own,later]
    rw [List.map_cons,List.mapIdx_cons,List.flatten_cons,Meeting.firstAppended,Meeting.firstUnder]
    cases Meeting.first? (item.meetings shape) <;> rfl

theorem fieldOrdered {entries : List (Value × Value)} (ordered : ∀ entry ∈ entries, entry.2.Ordered)
    {field : Field} (plain : field.shape.unionsPlain = true) :
    (field.check (entries.map fun entry => (entry.1,entry.2.check))).1.failure? =
      Meeting.first? (field.meetings (entries.map fun entry => (entry.1,entry.2.meetings))) := by
  rw [Field.checkGiven,Field.meetings,Field.givenMapped,Field.givenMapped]
  cases given : field.given? entries with
  | some value =>
    obtain ⟨entry,among,rfl⟩ := Field.givenAmong given
    have own := ordered entry among field.shape plain
    exact (Verdict.underFailure _ _).trans (own.trans (Meeting.firstUnder _ _).symm)
  | none =>
    cases field.default <;> rfl

theorem plainNever {value : Value} {shape : Shape} (plain : shape.isPlain = true) :
    (value.conform value.parts shape).EndsIn fun _ => False := by
  cases shape with
  | integer | text => exact Verdict.scalarEnds _ _
  | file =>
    have fields : ∀ field ∈ InputFile.fields, field.shape.Untagged := by
      simp only [InputFile.fields,List.forall_mem_cons,List.not_mem_nil,false_imp_iff,implies_true,
        and_true]
      exact ⟨.optional .text,.optional .text,.optional .anything⟩
    unfold conform
    split
    · refine InputFile.buildEnds fun field among entry member => ?_
      obtain ⟨original,_,rfl⟩ := List.mem_map.mp member
      exact ((fields field among).concludes original.2).ends
    · trivial
    · trivial
  | _ => cases plain

theorem decodeOpened (set : VariantSet) (value : Value) :
    set.decode value = set.build value value.parts.entries := by
  cases value with
  | map entries =>
    rw [VariantSet.decode,checkEntriesMapped]
    rfl
  | _ => rfl

theorem taggedChecked (set : VariantSet) (value : Value) :
    value.check (.tagged set) = Verdict.ofCoerced (set.coerce value) := by
  rw [checkOpened,conform,VariantSet.coerce,decodeOpened]
  split
  · rfl
  · cases set.build value value.parts.entries with
    | ok => rfl
    | error failure => rfl

theorem conformOrdered {value : Value} (items : ∀ item ∈ value.contents, item.Ordered)
    (entries : ∀ entry ∈ value.pairs, entry.2.Ordered) (shape : Shape)
    (plain : shape.unionsPlain = true) :
    (value.conform value.parts shape).failure? = Meeting.first? (value.meetingsIn
      (value.contents.map meetings) (value.pairs.map fun pair => (pair.1,pair.2.meetings)) shape) := by
  cases shape with
  | boolean | integer | text => exact Verdict.endsNever (Verdict.scalarEnds _ _)
  | anything => rfl
  | constant | always =>
    rw [conform]
    split <;> rfl
  | optional shape =>
    rw [conform,meetingsIn]
    split
    · rfl
    · exact conformOrdered items entries shape plain
  | listOf shape =>
    have each := itemsOrdered items shape plain Step.index
    cases value with
    | list | tuple | set => exact (Verdict.gatheredFailure _ _).trans each
    | _ => rfl
  | record kind =>
    cases value with
    | map given =>
      have each : ∀ field ∈ kind.fields, _ := fun field among =>
        fieldOrdered entries (kind.unionsPlain field among)
      refine (Verdict.buildFailure kind _).trans (Eq.trans ?_ (Meeting.firstFlattened _ _).symm)
      rw [← List.head?_filterMap,← List.head?_filterMap]
      exact congrArg List.head? (List.filterMap_congr each)
    | record own =>
      rw [conform]
      split <;> rfl
    | _ => rfl
  | file => exact Verdict.endsNever (plainNever rfl)
  | oneOf members =>
    refine Verdict.endsNever ?_
    rw [conform,conformAllMapped]
    refine Verdict.chooseEnds none [] ?_
    rw [List.forall_mem_map]
    intro member among
    have all := (Bool.and_eq_true _ _ ▸ plain).2
    exact plainNever (List.all_eq_true.mp all member among)
  | tagged set =>
    rw [← checkOpened,taggedChecked,meetingsIn,Meeting.first?,List.findSome?_singleton]
    exact Verdict.coercedFailure ⟨[],set,value⟩

theorem ordered (value : Value) : value.Ordered := by
  induction value using byContents with
  | step value items entries =>
    intro shape plain
    rw [checkOpened,meetingsOpened]
    exact conformOrdered items entries shape plain

end Value
namespace Shape
variable {shape : Shape} {value : Value} {failure : Failure}

theorem validateEnded (ended : (value.check shape).failure? = some failure) :
    shape.validate value = .error failure := by
  rw [validate]
  cases checked : value.check shape with
  | aborted cause =>
    rw [checked] at ended
    cases ended
    rfl
  | _ =>
    rw [checked] at ended
    cases ended

theorem validateReports (never : (value.check shape).failure? = none)
    (failed : shape.validate value = .error failure) : ∃ report, failure = .invalid report := by
  rw [validate] at failed
  cases checked : value.check shape with
  | accepted =>
    rw [checked] at failed
    cases failed
  | rejected issues =>
    rw [checked] at failed
    cases failed
    exact ⟨_,rfl⟩
  | aborted =>
    rw [checked] at never
    cases never

end Shape
end BotGateway
