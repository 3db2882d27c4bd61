import BotGateway.Proofs.Schema.Media
import BotGateway.Proofs.Schema.Nested

/-! Unions of records. Of the members that take a value the one is chosen that is given most fields, be it
by the value itself or by what stands within it. -/
namespace BotGateway

namespace Verdict

def Below (most : Nat) : Verdict → Prop
  | .accepted result => ∃ given, result.given = some given ∧ given < most
  | .rejected _ => True
  | .aborted _ => False

section Choice
variable {winner : Accepted} {most : Nat} {members : List (Text × Verdict)}

theorem leadKept (given : winner.given = some most) (later : ∀ member ∈ members, member.2.Below most)
    (issues : List Issue) : choose (some winner) issues members = .accepted winner := by
  induction members generalizing issues with
  | nil => rfl
  | cons member rest ih =>
    obtain ⟨label,verdict⟩ := member
    obtain ⟨below,others⟩ := List.forall_mem_cons.mp later
    cases verdict with
    | aborted => exact below.elim
    | rejected found => exact ih others _
    | accepted other =>
      obtain ⟨n,counted,fewer⟩ := below
      have behind : better winner other = false := by
        simp only [better,given,counted]
        rw [if_neg (by omega),decide_eq_false_iff_not]
        omega
      rw [choose,counted,Option.isNone_some,Bool.and_false,if_neg Bool.false_ne_true]
      simp only [behind,Bool.false_eq_true,if_false]
      exact ih others issues

theorem leadTaken (given : winner.given = some most) {best : Option Accepted}
    (led : ∀ leader ∈ best, (accepted leader).Below most) (later : ∀ member ∈ members, member.2.Below most)
    (label : Text) (issues : List Issue) :
    choose best issues ((label,.accepted winner) :: members) = .accepted winner := by
  cases best with
  | none =>
    rw [choose,given,Option.isNone_some,Bool.and_false,if_neg Bool.false_ne_true]
    exact leadKept given later issues
  | some leader =>
    rw [choose,given,Option.isNone_some,Bool.and_false,if_neg Bool.false_ne_true]
    obtain ⟨n,counted,fewer⟩ := led leader rfl
    have ahead : better leader winner = true := by
      simp only [better,given,counted]
      rw [if_neg (by omega),decide_eq_true fewer]
    simp only [ahead,if_true]
    exact leadKept given later issues

theorem chosenMost (given : winner.given = some most) {before after : List (Text × Verdict)}
    (earlier : ∀ member ∈ before, member.2.Below most) (later : ∀ member ∈ after, member.2.Below most)
    (label : Text) {best : Option Accepted} (led : ∀ leader ∈ best, (accepted leader).Below most)
    (issues : List Issue) :
    choose best issues (before ++ (label,.accepted winner) :: after) = .accepted winner := by
  induction before generalizing best issues with
  | nil => exact leadTaken given led later label issues
  | cons member rest ih =>
    obtain ⟨name,verdict⟩ := member
    obtain ⟨below,others⟩ := List.forall_mem_cons.mp earlier
    rw [List.cons_append]
    cases verdict with
    | aborted => exact below.elim
    | rejected found => exact ih others led _
    | accepted other =>
      have ⟨n,counted,_⟩ := below
      cases best with
      | none =>
        rw [choose,counted,Option.isNone_some,Bool.and_false,if_neg Bool.false_ne_true]
        refine ih others ?_ issues
        rintro _ ⟨⟩
        exact below
      | some leader =>
        rw [choose,counted,Option.isNone_some,Bool.and_false,if_neg Bool.false_ne_true]
        refine ih others ?_ issues
        rintro _ ⟨⟩
        split
        · exact below
        · exact led leader rfl

end Choice

def Uncounted : Verdict → Prop
  | .accepted result => result.given = none
  | _ => True

theorem scalarUncounted {α : Type} (wrap : α → Value) (found : Except Issue.Cause (α × Bool)) :
    (scalar wrap found).Uncounted := by
  cases found <;> first | rfl | trivial

theorem underUncounted {verdict : Verdict} (step : Step) (uncounted : verdict.Uncounted) :
    (verdict.under step).Uncounted := by
  cases verdict with
  | accepted => exact uncounted
  | rejected | aborted => trivial

theorem gatherUncounted {verdicts : List Verdict} {found : Gathered}
    (each : ∀ verdict ∈ verdicts, verdict.Uncounted) (gathered : gather verdicts = .ok found) :
    found.given = none := by
  induction verdicts generalizing found with
  | nil =>
    cases gathered
    rfl
  | cons verdict rest ih =>
    obtain ⟨first,others⟩ := List.forall_mem_cons.mp each
    cases verdict with
    | aborted => cases gathered
    | rejected issues =>
      obtain ⟨tail,later,done⟩ := exceptOk.mp gathered
      cases done
      have none : tail.given = none := ih others later
      exact none
    | accepted result =>
      obtain ⟨tail,later,done⟩ := exceptOk.mp gathered
      cases done
      have none : result.given = none := first
      rw [ih others later,none]
      rfl

end Verdict

namespace Shape

def isLight : Shape → Bool
  | .optional shape => shape.isScalar
  | shape => shape.isScalar

end Shape

namespace Value

theorem scalarUncounted {shape : Shape} (scalar : shape.isScalar = true) (value : Value) (parts : Parts) :
    (value.conform parts shape).Uncounted := by
  cases shape with
  | boolean | integer | text => exact Verdict.scalarUncounted _ _
  | constant | always =>
    rw [conform]
    split <;> first | rfl | trivial
  | _ => cases scalar

theorem lightUncounted {shape : Shape} (light : shape.isLight = true) (value : Value) :
    (value.check shape).Uncounted := by
  rw [checkOpened]
  cases shape with
  | optional shape =>
    rw [conform]
    split
    · rfl
    · exact scalarUncounted light value value.parts
  | _ =>
    refine scalarUncounted ?_ value value.parts
    exact light

end Value

theorem Field.checkUncounted {field : Field} (light : field.shape.isLight = true)
    (given : List (Value × Value)) : (field.check (Value.checkEntries given)).1.Uncounted := by
  rw [Field.check]
  split
  · rename_i key check found
    obtain ⟨entry,member,rfl⟩ := Field.foundAmong found
    obtain ⟨original,_,same⟩ := Value.entriesChecked member
    rw [same]
    exact Verdict.underUncounted _ (Value.lightUncounted light original.2)
  · split
    · rfl
    · trivial

namespace RecordKind
variable {kind : RecordKind} {entries : List (Value × Checker)} {result : Accepted}

def givenCount (kind : RecordKind) (entries : List (Value × Checker)) : Nat :=
  kind.fields.countP fun field => (field.check entries).2

theorem buildCount (accepted : kind.build entries = .accepted result) :
    ∃ found, Verdict.gather (kind.fields.map fun field => (field.check entries).1) = .ok found ∧
      result.given = Verdict.addGiven (some (kind.givenCount entries)) found.given := by
  unfold build at accepted
  simp only [List.map_map,List.filter_map,List.length_map,Function.comp_def] at accepted
  split at accepted
  · cases accepted
  · rename_i found gathered
    split at accepted
    · cases accepted
      rw [givenCount,List.countP_eq_length_filter]
      exact ⟨found,gathered,rfl⟩
    · cases accepted

theorem givenLeast (accepted : kind.build entries = .accepted result) :
    ∃ given, result.given = some given ∧ kind.givenCount entries ≤ given := by
  obtain ⟨found,_,counted⟩ := buildCount accepted
  rw [counted]
  cases found.given with
  | none => exact ⟨_,rfl,Nat.le_refl _⟩
  | some inner => exact ⟨_,rfl,Nat.le_add_right _ _⟩

theorem givenLight (light : ∀ field ∈ kind.fields, field.shape.isLight = true)
    {given : List (Value × Value)} (accepted : kind.build (Value.checkEntries given) = .accepted result) :
    result.given = some (kind.givenCount (Value.checkEntries given)) := by
  obtain ⟨found,gathered,counted⟩ := buildCount accepted
  have none : found.given = none := by
    refine Verdict.gatherUncounted ?_ gathered
    rw [List.forall_mem_map]
    exact fun field among => Field.checkUncounted (light field among) given
  rw [counted,none]
  rfl

end RecordKind
end BotGateway
