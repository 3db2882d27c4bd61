import BotGateway.Text.Basic

/-! Where a word stands within a text: across a character it does not hold, across a patch it does
not meet, and after places were patched. -/
namespace BotGateway.Text
variable {α : Type} {word patch old before after items piece : List α}

theorem splitPiece {c : α} (foreign : c ∉ word) :
    word <:+: before ++ c :: after ↔ word <:+: before ∨ word <:+: after := by
  constructor
  · intro within
    rcases List.infix_append_iff.mp within with left | right | ⟨first,second,rfl,ends,begins⟩
    · exact .inl left
    · rcases List.infix_cons_iff.mp right with start | later
      · rcases List.prefix_cons_iff.mp start with rfl | ⟨rest,rfl,_⟩
        · exact .inl List.nil_infix
        · exact absurd List.mem_cons_self foreign
      · exact .inr later
    · rcases List.prefix_cons_iff.mp begins with rfl | ⟨rest,rfl,_⟩
      · rw [List.append_nil]
        exact .inl ends.isInfix
      · exact absurd (List.mem_append_right _ List.mem_cons_self) foreign
  · rintro (left | right)
    · exact left.trans (List.prefix_append before _).isInfix
    · exact right.trans ((List.suffix_cons c after).trans (List.suffix_append before _)).isInfix

theorem splitFirstWhole [BEq α] [LawfulBEq α] {c : α}
    (split : splitFirst c items = some (before,after)) : items = before ++ c :: after := by
  induction items generalizing before with
  | nil => cases split
  | cons x rest ih =>
    rw [splitFirst] at split
    split at split
    · rename_i same
      cases split
      rw [eq_of_beq same,List.nil_append]
    · obtain ⟨⟨first,last⟩,inner,same⟩ := Option.map_eq_some_iff.mp split
      cases same
      rw [ih inner,List.cons_append]

theorem followsFirst {c : α} {front rest : List α} (within : front ++ c :: rest <:+: before ++ c :: after)
    (first : c ∉ before) : rest.length ≤ after.length := by
  obtain ⟨left,right,same⟩ := within
  have joined : (left ++ front) ++ c :: (rest ++ right) = before ++ c :: after := by
    rw [← same]
    simp
  have lengths := congrArg List.length joined
  simp only [List.length_cons,List.length_append] at lengths
  rcases List.append_eq_append_iff.mp joined with ⟨more,longer,starts⟩ | ⟨more,longer,_⟩
  · cases more with
    | nil =>
      rw [longer,List.append_nil,List.length_append] at lengths
      omega
    | cons x more =>
      obtain ⟨rfl,_⟩ := List.cons.inj starts
      exact absurd (longer ▸ List.mem_append_right _ List.mem_cons_self) first
  · have longest := congrArg List.length longer
    simp only [List.length_append] at longest
    omega

structure Clear (word patch : List α) : Prop where
  inside : ¬ word <:+: patch
  outside : ¬ patch <:+: word
  ends : ∀ piece, piece <:+ word → piece <+: patch → piece = []
  begins : ∀ piece, piece <+: word → piece <:+ patch → piece = []

theorem Clear.filled (clear : Clear word patch) : word ≠ [] := by
  rintro rfl
  exact clear.inside List.nil_infix

theorem Clear.stops (clear : Clear word patch) (ends : piece <:+ word)
    (begins : piece <+: patch ++ after) : piece = [] := by
  rcases List.prefix_or_prefix_of_prefix begins (List.prefix_append patch after) with part | whole
  · exact clear.ends piece ends part
  · exact absurd (whole.isInfix.trans ends.isInfix) clear.outside

theorem Clear.behind (clear : Clear word patch) (within : word <:+: patch ++ after) :
    word <:+: after := by
  rcases List.infix_append_iff.mp within with inside | later | ⟨first,second,rfl,ends,begins⟩
  · exact absurd inside clear.inside
  · exact later
  · obtain rfl := clear.begins first (List.prefix_append first second) ends
    exact begins.isInfix

variable [BEq α]

theorem Clear.prefixKept (clear : Clear word patch) (ends : piece <:+ word)
    (begins : piece <+: replaceFrom old patch 0 items) : piece <+: items := by
  induction items generalizing piece with
  | nil => exact begins
  | cons x rest ih =>
    rw [replaceFrom] at begins
    split at begins
    -- the end of the word would begin at the patch
    · rw [clear.stops ends begins]
      exact List.nil_prefix
    · rcases List.prefix_cons_iff.mp begins with rfl | ⟨later,rfl,follows⟩
      · exact List.nil_prefix
      · exact List.cons_prefix_cons.mpr ⟨rfl,ih ((List.suffix_cons x later).trans ends) follows⟩

theorem Clear.kept (clear : Clear word patch) {n : Nat}
    (within : word <:+: replaceFrom old patch n items) : word <:+: items.drop n := by
  induction items generalizing n with
  | nil => rwa [List.drop_nil]
  | cons x rest ih =>
    cases n with
    | succ n => exact ih within
    | zero =>
      have start : word <+: replaceFrom old patch 0 (x :: rest) → word <+: x :: rest :=
        clear.prefixKept List.suffix_rfl
      rw [replaceFrom] at within start
      split at within
      · exact (ih (clear.behind within)).trans
          ((List.drop_suffix _ rest).trans (List.suffix_cons x rest)).isInfix
      · rename_i other
        rw [if_neg other] at start
        rcases List.infix_cons_iff.mp within with first | later
        · exact (start first).isInfix
        · exact List.infix_cons (ih later)

theorem Clear.freed [LawfulBEq α] (clear : Clear word patch) (n : Nat) :
    ¬ word <:+: replaceFrom word patch n items := by
  intro within
  induction items generalizing n with
  | nil => exact clear.filled (List.infix_nil.mp within)
  | cons x rest ih =>
    cases n with
    | succ n => exact ih n within
    | zero =>
      have start : word <+: replaceFrom word patch 0 (x :: rest) → word <+: x :: rest :=
        clear.prefixKept List.suffix_rfl
      rw [replaceFrom] at within start
      split at within
      · exact ih _ (clear.behind within)
      · rename_i other
        rw [if_neg other] at start
        rcases List.infix_cons_iff.mp within with first | later
        -- the word stood here before, so this place would have been patched
        · exact other (List.isPrefixOf_iff_prefix.mpr (start first))
        · exact ih 0 later

theorem unpatched [LawfulBEq α] (absent : ¬ old <:+: items) : replaceAll old patch items = items := by
  rw [replaceAll]
  induction items with
  | nil => rfl
  | cons x rest ih =>
    rw [replaceFrom,if_neg,ih fun within => absent (List.infix_cons within)]
    intro here
    exact absent (List.isPrefixOf_iff_prefix.mp here).isInfix

end BotGateway.Text
