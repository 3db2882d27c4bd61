import BotGateway.Proofs.Text.Pieces

/-! Lists cut at the places of a mark. -/
namespace BotGateway.Text
variable {α : Type} {mark front rest items : List α} {c : α}

theorem startsBefore (foreign : c ∉ mark) (starts : mark <+: front ++ c :: rest) : mark <+: front := by
  have upTo : front ++ [c] <+: front ++ c :: rest := (List.prefix_append_right_inj front).mpr ⟨rest,rfl⟩
  rcases List.prefix_or_prefix_of_prefix starts upTo with within | beyond
  · rcases List.prefix_concat_iff.mp within with same | inside
    · exact absurd (same ▸ List.mem_append_right _ (List.mem_singleton_self c)) foreign
    · exact inside
  · exact absurd (beyond.subset (List.mem_append_right _ (List.mem_singleton_self c))) foreign

theorem lastPlace (inside : c ∈ items) : ∃ front rest, items = front ++ c :: rest ∧ c ∉ rest := by
  obtain ⟨later,earlier,same,foreign⟩ := List.eq_append_cons_of_mem (List.mem_reverse.mpr inside)
  refine ⟨earlier.reverse,later.reverse,?_,by simpa using foreign⟩
  rw [← List.reverse_reverse items,same]
  simp

section
variable [BEq α]

def cutFirst (mark : List α) : List α → Option (List α × List α)
  | [] => none
  | x :: rest =>
    if mark.isPrefixOf (x :: rest) then some ([],(x :: rest).drop mark.length)
    else (cutFirst mark rest).map fun (before,after) => (x :: before,after)

/-- The pieces between the leftmost non-overlapping places of a non-empty mark; `covered` counts the
members that belong to a place already found. -/
def cutAll (mark : List α) (covered : Nat) : List α → List (List α)
  | [] => [[]]
  | x :: rest =>
    match covered with
    | n + 1 => cutAll mark n rest
    | 0 =>
      if mark.isPrefixOf (x :: rest) then [] :: cutAll mark (mark.length - 1) rest
      else match cutAll mark 0 rest with
        | piece :: pieces => (x :: piece) :: pieces
        | [] => [[x]]

theorem cutCovered (mark : List α) (n : Nat) (items : List α) :
    cutAll mark n items = cutAll mark 0 (items.drop n) := by
  induction items generalizing n with
  | nil => rw [List.drop_nil,cutAll,cutAll]
  | cons x rest ih =>
    cases n with
    | zero => rfl
    | succ n => exact ih n

variable [LawfulBEq α]

theorem notHere (foreign : c ∉ mark) (absent : ¬ mark <:+: front) (rest : List α) :
    mark.isPrefixOf (front ++ c :: rest) = false := by
  rw [← Bool.not_eq_true,List.isPrefixOf_iff_prefix]
  exact fun starts => absent (startsBefore foreign starts).isInfix

theorem cutMark (filled : mark ≠ []) (rest : List α) :
    cutAll mark 0 (mark ++ rest) = [] :: cutAll mark 0 rest := by
  obtain ⟨x,more,rfl⟩ := List.exists_cons_of_ne_nil filled
  have here : (x :: more).isPrefixOf (x :: (more ++ rest)) :=
    List.isPrefixOf_iff_prefix.mpr (List.prefix_append (x :: more) rest)
  rw [List.cons_append,cutAll,if_pos here,cutCovered]
  simp

theorem cutFront (foreign : c ∉ mark) (absent : ¬ mark <:+: front) {piece : List α}
    {pieces : List (List α)} (after : cutAll mark 0 rest = piece :: pieces) :
    cutAll mark 0 (front ++ c :: rest) = (front ++ c :: piece) :: pieces := by
  induction front with
  | nil =>
    have none := notHere foreign absent rest
    rw [List.nil_append] at none ⊢
    rw [cutAll,if_neg (by simp [none]),after,List.nil_append]
  | cons x front ih =>
    have none := notHere foreign absent rest
    rw [List.cons_append] at none ⊢
    rw [cutAll,if_neg (by simp [none]),ih fun within => absent (List.infix_cons within)]
    rfl

theorem cutNone (absent : ¬ mark <:+: items) : cutAll mark 0 items = [items] := by
  induction items with
  | nil => rfl
  | cons x rest ih =>
    rw [cutAll,if_neg,ih fun within => absent (List.infix_cons within)]
    rw [List.isPrefixOf_iff_prefix]
    exact fun starts => absent starts.isInfix

theorem cutFirstHere (filled : mark ≠ []) (rest : List α) :
    cutFirst mark (mark ++ rest) = some ([],rest) := by
  obtain ⟨x,more,rfl⟩ := List.exists_cons_of_ne_nil filled
  have here : (x :: more).isPrefixOf (x :: (more ++ rest)) :=
    List.isPrefixOf_iff_prefix.mpr (List.prefix_append (x :: more) rest)
  rw [List.cons_append,cutFirst,if_pos here]
  simp

theorem cutFirstFront (foreign : c ∉ mark) (absent : ¬ mark <:+: front) (rest : List α) :
    cutFirst mark (front ++ c :: rest) =
      (cutFirst mark rest).map fun (before,after) => (front ++ c :: before,after) := by
  induction front with
  | nil =>
    have none := notHere foreign absent rest
    rw [List.nil_append] at none ⊢
    rw [cutFirst,if_neg (by simp [none])]
    rfl
  | cons x front ih =>
    have none := notHere foreign absent rest
    rw [List.cons_append] at none ⊢
    rw [cutFirst,if_neg (by simp [none]),ih fun within => absent (List.infix_cons within)]
    cases cutFirst mark rest <;> rfl

theorem splitFirstAt (foreign : c ∉ front) (rest : List α) :
    splitFirst c (front ++ c :: rest) = some (front,rest) := by
  induction front with
  | nil => rw [List.nil_append,splitFirst,if_pos (beq_self_eq_true c)]
  | cons x front ih =>
    obtain ⟨other,foreign⟩ := not_or.mp (mt List.mem_cons.mpr foreign)
    rw [List.cons_append,splitFirst,if_neg (by simpa using Ne.symm other),ih foreign]
    rfl

theorem splitFirstNone (foreign : c ∉ items) : splitFirst c items = none := by
  induction items with
  | nil => rfl
  | cons x rest ih =>
    obtain ⟨other,foreign⟩ := not_or.mp (mt List.mem_cons.mpr foreign)
    rw [splitFirst,if_neg (by simpa using Ne.symm other),ih foreign]
    rfl

theorem splitLastAt (foreign : c ∉ rest) (front : List α) :
    splitLast c (front ++ c :: rest) = some (front,rest) := by
  have reversed : (front ++ c :: rest).reverse = rest.reverse ++ c :: front.reverse := by simp
  rw [splitLast,reversed,splitFirstAt (by simpa using foreign)]
  simp

theorem splitLastNone (foreign : c ∉ items) : splitLast c items = none := by
  rw [splitLast,splitFirstNone (by simpa using foreign)]
  rfl

theorem cutFirstWhole {before after : List α} (cut : cutFirst mark items = some (before,after)) :
    items = before ++ (mark ++ after) := by
  induction items generalizing before with
  | nil => cases cut
  | cons x rest ih =>
    rw [cutFirst] at cut
    split at cut
    · rename_i here
      cases cut
      exact (List.prefix_iff_eq_append.mp (List.isPrefixOf_iff_prefix.mp here)).symm
    · obtain ⟨⟨first,last⟩,inner,same⟩ := Option.map_eq_some_iff.mp cut
      cases same
      rw [ih inner,List.cons_append]

theorem cutFirstOver (filled : mark ≠ []) {passed : List α} (foreign : ∀ x ∈ passed, x ∉ mark)
    (rest : List α) : cutFirst mark (passed ++ rest) =
      (cutFirst mark rest).map fun (before,after) => (passed ++ before,after) := by
  induction passed with
  | nil =>
    rw [List.nil_append]
    cases cutFirst mark rest <;> rfl
  | cons x passed ih =>
    obtain ⟨here,later⟩ := List.forall_mem_cons.mp foreign
    have absent : ¬ mark <:+: [] := mt List.infix_nil.mp filled
    have step := cutFirstFront here absent (passed ++ rest)
    rw [List.nil_append] at step
    rw [List.cons_append,step,ih later]
    cases cutFirst mark rest <;> rfl

theorem notEnding {start : List α} (foreign : c ∉ start) (outside : c ∉ front)
    (other : start ≠ front) (rest : List α) :
    (start ++ [c]).isPrefixOf (front ++ c :: rest) = false := by
  rw [← Bool.not_eq_true,List.isPrefixOf_iff_prefix]
  rintro ⟨more,same⟩
  rw [List.append_assoc,List.singleton_append] at same
  have first := splitFirstAt foreign more
  rw [same,splitFirstAt outside rest] at first
  cases first
  exact other rfl

theorem cutFirstEnding {start : List α} (foreign : c ∉ start) (outside : c ∉ front)
    (rest : List α) : cutFirst (start ++ [c]) (front ++ (start ++ c :: rest)) = some (front,rest) := by
  induction front with
  | nil =>
    have here := cutFirstHere (List.append_ne_nil_of_right_ne_nil start (List.cons_ne_nil c [])) rest
    rwa [List.append_assoc,List.singleton_append] at here
  | cons x front ih =>
    obtain ⟨later,absent⟩ := not_or.mp (mt List.mem_cons.mpr outside)
    have longer : start ≠ x :: (front ++ start) := by
      intro same
      have lengths := congrArg List.length same
      simp only [List.length_cons,List.length_append] at lengths
      omega
    have within : c ∉ x :: (front ++ start) := by
      simp [later,absent,foreign]
    have none := notEnding foreign within longer rest
    rw [List.cons_append,List.append_assoc] at none
    rw [List.cons_append,cutFirst,if_neg (by simp [none]),ih absent]
    rfl

theorem cutFirstPast {start : List α} (foreign : c ∉ start) (outside : c ∉ front)
    (other : ¬ start <:+ front) (rest : List α) : cutFirst (start ++ [c]) (front ++ c :: rest) =
      (cutFirst (start ++ [c]) rest).map fun (before,after) => (front ++ c :: before,after) := by
  induction front with
  | nil =>
    have none := notEnding foreign outside (fun same => other (same ▸ List.suffix_rfl)) rest
    rw [List.nil_append] at none ⊢
    rw [cutFirst,if_neg (by simp [none])]
    rfl
  | cons x front ih =>
    have none := notEnding foreign outside (fun same => other (same ▸ List.suffix_rfl)) rest
    obtain ⟨_,outside⟩ := not_or.mp (mt List.mem_cons.mpr outside)
    have shorter : ¬ start <:+ front := fun ends => other (ends.trans (List.suffix_cons x front))
    rw [List.cons_append] at none ⊢
    rw [cutFirst,if_neg (by simp [none]),ih outside shorter]
    cases cutFirst (start ++ [c]) rest <;> rfl

end

end BotGateway.Text
