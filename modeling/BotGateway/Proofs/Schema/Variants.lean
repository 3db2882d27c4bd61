import BotGateway.Proofs.Schema.Order

/-! A value held against a set of variants. The check takes what the set decodes and refuses what it
refuses, and a decoded record stays what it is among all kinds of the set. -/
namespace BotGateway

namespace VariantSet

def union (set : VariantSet) : Shape := .oneOf (set.variants.map fun variant => .record variant.2)

inductive Resolves (set : VariantSet) : Value → Value → Prop where
  | variant {entries : List (Value × Value)} {tag : Text} {kind : RecordKind} {fields : List (Text × Value)}
      (tagged : Value.entry? set.field entries = some (.text tag))
      (listed : set.variants.lookup tag = some kind)
      (own : (Value.record kind fields).check set.union = .asIs (.record kind fields)) :
      Resolves set (.map entries) (.record kind fields)

structure Fares (set : VariantSet) (value : Value) : Prop where
  passed : set.admits value = true →
    (Shape.tagged set).validate value = .ok value ∧ value.check set.union = .asIs value
  taken : set.admits value = false →
    ∀ result, (Shape.tagged set).validate value = .ok result ↔ set.decode value = .ok result
  resolved : ∀ result, set.decode value = .ok result → set.Resolves value result
  refused : set.admits value = false → ∀ failure, set.decode value = .error failure →
    failure ≠ .unwritable .longInteger → (Shape.tagged set).validate value = .error failure

end VariantSet

namespace Verdict

theorem chosenOwn {kind : RecordKind} {kinds : List RecordKind} (among : kind ∈ kinds)
    (fields : List (Text × Value)) (issues : List Issue) :
    choose none issues (Value.conformAll (.record kind fields) ⟨[],[]⟩ (kinds.map .record)) =
      .asIs (.record kind fields) := by
  induction kinds generalizing issues with
  | nil => cases among
  | cons other rest ih =>
    rw [List.map_cons,Value.conformAll,Value.conform]
    by_cases same : kind = other
    · rw [if_pos same]
      rfl
    · rw [if_neg same]
      exact ih ((List.mem_cons.mp among).resolve_left same) _

end Verdict

namespace VariantSet
variable {set : VariantSet} {value result : Value}

theorem unionKeeps {kind : RecordKind} (listed : kind ∈ set.variants.map (·.2)) (fields : List (Text × Value)) :
    (Value.record kind fields).check set.union = .asIs (.record kind fields) := by
  have shapes : set.variants.map (fun variant => Shape.record variant.2) =
      (set.variants.map (·.2)).map .record := by
    rw [List.map_map]
    rfl
  rw [union,shapes]
  exact Verdict.chosenOwn listed fields []

theorem decodedResolves (decoded : set.decode value = .ok result) : set.Resolves value result := by
  rw [Value.decodeOpened] at decoded
  obtain ⟨tag,found,later⟩ := exceptOk.mp decoded
  obtain ⟨kind,known,made⟩ := exceptOk.mp later
  obtain ⟨entries,rfl,same⟩ := peeked found
  obtain ⟨t,rfl,listed⟩ := resolved known
  have tagged : Value.entry? set.field entries = some (.text t) := by
    cases given : Value.entry? set.field entries with
    | none =>
      rw [given] at same
      cases same
    | some tag =>
      rw [given] at same
      exact congrArg some same.symm
  have among : kind ∈ set.variants.map (·.2) := by
    obtain ⟨before,after,same,_⟩ := List.lookup_eq_some_iff.mp listed
    rw [same]
    simp
  split at made
  · rename_i accepted built
    cases made
    obtain ⟨fields,same⟩ := RecordKind.buildRecord ⟨_,built,rfl⟩
    rw [same]
    exact .variant tagged listed (unionKeeps among fields)
  · cases made
  · cases made

theorem fares (set : VariantSet) (value : Value) : set.Fares value := by
  have checked := Value.taggedChecked set value
  rw [coerce] at checked
  refine ⟨fun admitted => ?_,fun other result => ?_,fun result => decodedResolves,
    fun other failure failed short => ?_⟩
  · rw [if_pos admitted] at checked
    refine ⟨by rw [Shape.validate,checked]; rfl,?_⟩
    cases value with
    | record kind fields =>
      obtain ⟨variant,listed,same⟩ := List.any_eq_true.mp admitted
      exact unionKeeps (List.mem_map.mpr ⟨variant,listed,beq_iff_eq.mp same⟩) fields
    | _ => cases admitted
  · rw [if_neg (Bool.eq_false_iff.mp other)] at checked
    rw [Shape.validate,checked]
    cases set.decode value with
    | ok variant => exact Iff.rfl
    | error failure =>
      by_cases long : failure = .unwritable .longInteger
      · subst long
        simp [Verdict.ofCoerced,Verdict.issue]
      · rw [Verdict.ofCoercedOther long]
  · rw [if_neg (Bool.eq_false_iff.mp other),failed,Verdict.ofCoercedOther short] at checked
    rw [Shape.validate,checked]

end VariantSet
end BotGateway
