import BotGateway.Proofs.Except
import BotGateway.Schema.Conform
import Mathlib.Data.List.Forall2

/-! Many verdicts gathered into one. Where none was a rejection without findings, the gathered values
are those that were accepted, one after the other. -/
namespace BotGateway

theorem relatedMembers {α β : Type} {R : α → β → Prop} {as : List α} {bs : List β}
    (related : List.Forall₂ R as bs) : (∀ a ∈ as, ∃ b ∈ bs, R a b) ∧ ∀ b ∈ bs, ∃ a ∈ as, R a b := by
  induction related with
  | nil => simp
  | cons relates _ ih =>
    constructor
    · rintro a (_ | ⟨_,member⟩)
      · exact ⟨_,List.mem_cons_self,relates⟩
      · obtain ⟨b,among,relates⟩ := ih.1 a member
        exact ⟨b,List.mem_cons_of_mem _ among,relates⟩
    · rintro b (_ | ⟨_,member⟩)
      · exact ⟨_,List.mem_cons_self,relates⟩
      · obtain ⟨a,among,relates⟩ := ih.2 b member
        exact ⟨a,List.mem_cons_of_mem _ among,relates⟩

theorem relatedAt {α β : Type} {R : α → β → Prop} {as : List α} {bs : List β}
    (related : List.Forall₂ R as bs) {i : Nat} {a : α} (placed : as[i]? = some a) :
    ∃ b, bs[i]? = some b ∧ R a b := by
  induction related generalizing i with
  | nil => simp at placed
  | cons relates _ ih =>
    cases i with
    | zero =>
      cases Option.some.inj placed
      exact ⟨_,rfl,relates⟩
    | succ i => exact ih placed

namespace Verdict

def Takes (verdict : Verdict) (value : Value) : Prop :=
  ∃ result, verdict = .accepted result ∧ result.value = value

def Explained : Verdict → Prop
  | .rejected issues => issues.isEmpty = false
  | _ => True

theorem gatheredTaken {verdicts : List Verdict} {found : Gathered}
    (explained : ∀ verdict ∈ verdicts, verdict.Explained)
    (gathered : gather verdicts = .ok found) (clean : found.issues.isEmpty = true) :
    List.Forall₂ Takes verdicts found.values := by
  induction verdicts generalizing found with
  | nil =>
    cases gathered
    exact .nil
  | cons verdict rest ih =>
    have later := fun verdict member => explained verdict (.tail _ member)
    cases verdict with
    | aborted failure => cases gathered
    | rejected issues =>
      -- its findings would be among those gathered
      have filled : issues.isEmpty = false := explained _ List.mem_cons_self
      obtain ⟨tail,_,done⟩ := exceptOk.mp gathered
      cases done
      cases issues with
      | nil => cases filled
      | cons => cases clean
    | accepted result =>
      obtain ⟨tail,others,done⟩ := exceptOk.mp gathered
      cases done
      exact .cons ⟨result,rfl,rfl⟩ (ih later others clean)

theorem ofGatheredTaken {verdicts : List Verdict} {wrap : List Value → Value} {value : Value}
    (explained : ∀ verdict ∈ verdicts, verdict.Explained)
    (takes : (ofGathered wrap (gather verdicts)).Takes value) :
    ∃ values, value = wrap values ∧ List.Forall₂ Takes verdicts values := by
  obtain ⟨result,accepted,rfl⟩ := takes
  cases gathered : gather verdicts with
  | error =>
    rw [gathered] at accepted
    cases accepted
  | ok found =>
    rw [gathered,ofGathered] at accepted
    split at accepted
    · rename_i clean
      cases accepted
      exact ⟨found.values,rfl,gatheredTaken explained gathered clean⟩
    · cases accepted

theorem gatherTaken {verdicts : List Verdict} {values : List Value}
    (taken : List.Forall₂ Takes verdicts values) :
    ∃ found, gather verdicts = .ok found ∧ found.issues = [] ∧ found.values = values := by
  induction taken with
  | nil => exact ⟨_,rfl,rfl,rfl⟩
  | @cons verdict value verdicts values takes taken ih =>
    obtain ⟨result,rfl,rfl⟩ := takes
    obtain ⟨tail,later,clean,rfl⟩ := ih
    refine ⟨⟨result.value :: tail.values,tail.issues,result.exact && tail.exact,
      addGiven result.given tail.given⟩,?_,clean,rfl⟩
    rw [gather,later]
    rfl

theorem underTakes {verdict : Verdict} {value : Value} (step : Step)
    (takes : verdict.Takes value) : (verdict.under step).Takes value := by
  obtain ⟨result,rfl,same⟩ := takes
  exact ⟨result,rfl,same⟩

theorem indexedTakes {shape : Shape} {checks : List Checker} {values : List Value}
    (taken : List.Forall₂ (fun check value => Verdict.Takes (check shape) value) checks values)
    (step : Nat → Step) :
    List.Forall₂ Takes (checks.mapIdx fun i check => (check shape).under (step i)) values := by
  induction taken generalizing step with
  | nil => exact .nil
  | cons takes _ ih =>
    rw [List.mapIdx_cons]
    exact .cons (underTakes _ takes) (ih fun i => step (i + 1))

theorem takenUnder {verdict : Verdict} {value : Value} {step : Step}
    (takes : (verdict.under step).Takes value) : verdict.Takes value := by
  cases verdict with
  | accepted result => exact takes
  | rejected | aborted =>
    obtain ⟨_,impossible,_⟩ := takes
    cases impossible

theorem underExplained {verdict : Verdict} (step : Step) (explained : verdict.Explained) :
    (verdict.under step).Explained := by
  cases verdict with
  | rejected issues => simpa [Explained,under] using explained
  | accepted | aborted => trivial

theorem ofGatheredExplained (wrap : List Value → Value) (gathered : Except Failure Gathered) :
    (ofGathered wrap gathered).Explained := by
  cases gathered with
  | error => trivial
  | ok found =>
    rw [ofGathered]
    split
    · trivial
    · rename_i filled
      simpa [Explained] using filled

end Verdict

namespace RecordKind
variable {kind : RecordKind} {entries : List (Value × Checker)}

theorem buildExplained : (kind.build entries).Explained := by
  unfold RecordKind.build
  dsimp only
  split
  · trivial
  · split
    · trivial
    · rename_i filled
      simpa [Verdict.Explained] using filled

theorem buildRecord {value : Value} (takes : (kind.build entries).Takes value) :
    ∃ fields, value = .record kind fields := by
  obtain ⟨result,accepted,rfl⟩ := takes
  unfold RecordKind.build at accepted
  dsimp only at accepted
  split at accepted
  · cases accepted
  · split at accepted
    · cases accepted
      exact ⟨_,rfl⟩
    · cases accepted

theorem built {value : Value} (explained : ∀ field ∈ kind.fields, (field.check entries).1.Explained)
    (takes : (kind.build entries).Takes value) :
    ∃ values, value = .record kind ((kind.fields.map (·.name)).zip values) ∧
      List.Forall₂ (fun field value => (field.check entries).1.Takes value) kind.fields values := by
  obtain ⟨result,accepted,rfl⟩ := takes
  unfold RecordKind.build at accepted
  dsimp only at accepted
  split at accepted
  · cases accepted
  · rename_i found gathered
    split at accepted
    · rename_i clean
      cases accepted
      have taken := Verdict.gatheredTaken (by simpa using explained) gathered clean
      rw [List.map_map,List.forall₂_map_left_iff] at taken
      exact ⟨found.values,rfl,taken⟩
    · cases accepted

theorem buildTakes {values : List Value}
    (taken : List.Forall₂ (fun field value => (field.check entries).1.Takes value) kind.fields values) :
    (kind.build entries).Takes (.record kind ((kind.fields.map (·.name)).zip values)) := by
  obtain ⟨found,gathered,clean,rfl⟩ := Verdict.gatherTaken (List.forall₂_map_left_iff.mpr taken)
  rw [build]
  simp only [List.map_map,Function.comp_def,gathered,clean,List.isEmpty_nil,if_true]
  exact ⟨_,rfl,rfl⟩

end RecordKind
end BotGateway
