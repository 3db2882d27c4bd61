import BotGateway.Proofs.Schema.Fits

/-! Shapes without variants. No failure ends a check against one of them, and a rejection says why. -/
namespace BotGateway

inductive Shape.Untagged : Shape → Prop where
  | boolean : Untagged .boolean
  | integer : Untagged .integer
  | text : Untagged .text
  | anything : Untagged .anything
  | optional {shape : Shape} (untagged : Untagged shape) : Untagged (.optional shape)
  | record {kind : RecordKind} (untagged : ∀ field ∈ kind.fields, Untagged field.shape) :
      Untagged (.record kind)

theorem Value.entriesChecked {given : List (Value × Value)} {entry : Value × Checker}
    (member : entry ∈ Value.checkEntries given) :
    ∃ original ∈ given, entry.2 = Value.check original.2 := by
  rw [Value.checkEntriesMapped] at member
  obtain ⟨original,among,rfl⟩ := List.mem_map.mp member
  exact ⟨original,among,rfl⟩

theorem Value.checkConforms (value : Value) : ∃ parts, value.check = value.conform parts := by
  cases value <;> exact ⟨_,rfl⟩

theorem Field.checkExplained {field : Field} {entries : List (Value × Checker)}
    (explained : ∀ entry ∈ entries, (entry.2 field.shape).Explained) :
    (field.check entries).1.Explained := by
  unfold Field.check
  split
  · rename_i key check found
    obtain ⟨entry,member,rfl⟩ := Field.foundAmong found
    exact Verdict.underExplained _ (explained entry member)
  · split
    · trivial
    · rfl

namespace Verdict

structure Concludes (verdict : Verdict) : Prop where
  ends : verdict.EndsIn fun _ => False
  explained : verdict.Explained

theorem scalarConcludes {α : Type} (wrap : α → Value) (found : Except Issue.Cause (α × Bool)) :
    (scalar wrap found).Concludes := by
  cases found with
  | ok => exact ⟨trivial,trivial⟩
  | error => exact ⟨trivial,rfl⟩

end Verdict

namespace Shape.Untagged
variable {shape : Shape}

theorem concludes (untagged : shape.Untagged) (value : Value) : (value.check shape).Concludes := by
  induction untagged generalizing value with
  | boolean | integer | text =>
    obtain ⟨parts,same⟩ := value.checkConforms
    rw [same,Value.conform]
    exact Verdict.scalarConcludes _ _
  | anything =>
    obtain ⟨parts,same⟩ := value.checkConforms
    rw [same,Value.conform]
    exact ⟨trivial,trivial⟩
  | optional untagged ih =>
    obtain ⟨parts,same⟩ := value.checkConforms
    have inner := ih value
    rw [same] at inner ⊢
    rw [Value.conform]
    split
    · exact ⟨trivial,trivial⟩
    · exact inner
  | record untagged ih =>
    cases value with
    | map given =>
      refine ⟨RecordKind.buildEnds fun field among entry member => ?_,RecordKind.buildExplained⟩
      obtain ⟨original,_,same⟩ := Value.entriesChecked member
      rw [same]
      exact (ih field among original.2).ends
    | record own fields =>
      simp only [Value.check,Value.conform]
      split
      · exact ⟨trivial,trivial⟩
      · exact ⟨trivial,rfl⟩
    | _ => exact ⟨trivial,rfl⟩

theorem validateFails (untagged : shape.Untagged) {value : Value} {failure : Failure}
    (failed : shape.validate value = .error failure) : ∃ report, failure = .invalid report := by
  have ends := (untagged.concludes value).ends
  unfold Shape.validate at failed
  split at failed
  · cases failed
  · cases failed
    exact ⟨_,rfl⟩
  · rename_i cause ended
    rw [ended] at ends
    exact ends.elim

end Shape.Untagged
end BotGateway
