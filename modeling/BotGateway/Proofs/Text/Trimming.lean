import BotGateway.Text.Basic
import Mathlib.Data.List.TakeWhile

/-! What trimming takes away: all that may go at both ends, up to the first member that stays. -/
namespace BotGateway.Text
variable {α : Type} {drop : α → Bool} {items front middle back rest : List α}

theorem dropFront (ahead : ∀ a ∈ front, drop a = true) (stops : ∀ a ∈ rest.head?, drop a = false) :
    (front ++ rest).dropWhile drop = rest := by
  rw [List.dropWhile_append_of_pos ahead]
  cases rest with
  | nil => rfl
  | cons a rest => exact List.dropWhile_cons_of_neg (by simp [stops a rfl])

theorem trimEnds (filled : middle ≠ []) (ahead : ∀ a ∈ front, drop a = true)
    (first : ∀ a ∈ middle.head?, drop a = false) (last : ∀ a ∈ middle.getLast?, drop a = false)
    (behind : ∀ a ∈ back, drop a = true) : trim drop (front ++ middle ++ back) = middle := by
  have head : ∀ a ∈ (middle ++ back).head?, drop a = false := by
    obtain ⟨m,others,rfl⟩ := List.exists_cons_of_ne_nil filled
    exact first
  have tail : ∀ a ∈ middle.reverse.head?, drop a = false := by rwa [List.head?_reverse]
  rw [trim,List.append_assoc,dropFront ahead head,List.reverse_append,
    dropFront (fun a member => behind a (List.mem_reverse.mp member)) tail,List.reverse_reverse]

theorem trimBetween (filled : middle ≠ []) (ahead : ∀ a ∈ front, drop a = true)
    (kept : ∀ a ∈ middle, drop a = false) (behind : ∀ a ∈ back, drop a = true) :
    trim drop (front ++ middle ++ back) = middle :=
  trimEnds filled ahead (fun a head => kept a (List.mem_of_head? head))
    (fun a last => kept a (List.mem_of_getLast? last)) behind

theorem trimSplit (drop : α → Bool) (items : List α) : ∃ front back,
    items = front ++ trim drop items ++ back ∧ ∀ a ∈ front ++ back, drop a = true := by
  have ahead := List.takeWhile_append_dropWhile (p := drop) (l := items)
  have behind := List.takeWhile_append_dropWhile (p := drop) (l := (items.dropWhile drop).reverse)
  refine ⟨items.takeWhile drop,((items.dropWhile drop).reverse.takeWhile drop).reverse,?_,?_⟩
  · rw [trim,List.append_assoc,← List.reverse_append,behind,List.reverse_reverse,ahead]
  · intro a member
    obtain front | back := List.mem_append.mp member
    · exact List.all_eq_true.mp List.all_takeWhile a front
    · exact List.all_eq_true.mp List.all_takeWhile a (List.mem_reverse.mp back)

theorem trimLast {a : α} (margin : drop a = true) : trim drop (items ++ [a]) = trim drop items := by
  rw [trim,trim,List.dropWhile_append]
  split
  · rename_i none
    simp [List.isEmpty_iff.mp none,margin]
  · simp [margin]

end BotGateway.Text
