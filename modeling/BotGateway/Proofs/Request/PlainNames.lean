import BotGateway.Proofs.Request.PartNames

/-! Part names are read back where no step but the first has an underscore in its name and no first
step is called like another one with more steps. -/
namespace BotGateway

namespace Attachment

def underscore : CodePoint := '_'

theorem nameOfIntercalate (path : List Text) : nameOf path = List.intercalate [underscore] path := by
  unfold nameOf
  induction path with
  | nil => rfl
  | cons first rest ih =>
    cases rest with
    | nil => rw [Text.join,List.intercalate_singleton]
    | cons next others =>
      rw [Text.join,ih,List.intercalate_cons_cons]
      rfl

theorem nameOfBelow (top : Text) (rest : List Text) : nameOf (top :: rest) = top ++ nameOf ([] :: rest) := by
  cases rest with
  | nil => simp [nameOf,Text.join]
  | cons next others => simp [nameOf,Text.join]

theorem plainInjective {left right : List Text} (plainLeft : ∀ name ∈ left, underscore ∉ name)
    (plainRight : ∀ name ∈ right, underscore ∉ name)
    (same : nameOf ([] :: left) = nameOf ([] :: right)) : left = right := by
  have read {path : List Text} (plain : ∀ name ∈ path, underscore ∉ name) :
      (nameOf ([] :: path)).splitOn underscore = [] :: path := by
    rw [nameOfIntercalate]
    exact List.splitOn_intercalate _ (List.forall_mem_cons.mpr ⟨List.not_mem_nil,plain⟩) (by simp)
  have lists : ([] :: left : List Text) = [] :: right := by
    rw [← read plainLeft,← read plainRight,same]
  exact (List.cons.inj lists).2

theorem sameTop {a b : Text} {left right : List Text}
    (apart : ∀ more, b ≠ a ++ underscore :: more ∧ a ≠ b ++ underscore :: more)
    (same : nameOf (a :: left) = nameOf (b :: right)) :
    a = b ∧ nameOf ([] :: left) = nameOf ([] :: right) := by
  rw [nameOfBelow a,nameOfBelow b] at same
  have starts {path : List Text} {c : CodePoint} {more : Text}
      (begins : nameOf ([] :: path) = c :: more) : c = underscore := by
    cases path with
    | nil => simp [nameOf,Text.join] at begins
    | cons next others =>
      simp only [nameOf,Text.join,List.nil_append] at begins
      exact (List.cons.inj begins).1.symm
  rcases List.append_eq_append_iff.mp same with ⟨more,longer,tail⟩ | ⟨more,longer,tail⟩
  · cases more with
    | nil => exact ⟨by simpa using longer.symm,tail⟩
    | cons c more =>
      cases starts tail
      exact absurd longer (apart more).1
  · cases more with
    | nil => exact ⟨by simpa using longer,tail.symm⟩
    | cons c more =>
      cases starts tail
      exact absurd longer (apart more).2

end Attachment

end BotGateway
