import BotGateway.Proofs.Text.Patching

/-! Orders in which words are patched. All of them give the same in every text exactly when no word
holds another and no end of one is a beginning of another: of two that do meet, the one that comes
first breaks the other, and the text that just holds both tells which it was. -/
namespace BotGateway.Text
variable {α : Type} {words : List (List α)}
  {word first second patch items piece before after rest : List α}

def Unbordered (patch : List α) : Prop :=
  ∀ piece, piece <+: patch → piece <:+ patch → piece = [] ∨ piece = patch

theorem Unbordered.joined (unbordered : Unbordered patch) (same : before ++ patch = patch ++ after) :
    before = [] ∨ patch <+: before := by
  rcases List.append_eq_append_iff.mp same with ⟨border,longer,ends⟩ | ⟨border,longer,_⟩
  · rcases unbordered border ⟨after,ends.symm⟩ ⟨before,longer.symm⟩ with none | all
    · rw [none,List.append_nil] at longer
      exact .inr (longer ▸ List.prefix_rfl)
    · rw [all] at longer
      exact .inl (List.append_left_eq_self.mp longer.symm)
  · exact .inr ⟨border,longer.symm⟩

variable [BEq α] [LawfulBEq α]

theorem patchedWhole (filled : word ≠ []) : replaceAll word patch word = patch := by
  have here : replaceAll word patch (word ++ []) = patch ++ [] := patchedHere filled
  rwa [List.append_nil,List.append_nil] at here

theorem patchedHolds (filled : word ≠ []) (within : word <:+: items) :
    patch <:+: replaceAll word patch items := by
  induction items with
  | nil => exact absurd (List.infix_nil.mp within) filled
  | cons x rest ih =>
    by_cases starts : word <+: x :: rest
    · obtain ⟨rest,same⟩ := starts
      rw [← same,patchedHere filled]
      exact (List.prefix_append patch _).isInfix
    · rw [patchedNext starts]
      exact List.infix_cons (ih ((List.infix_cons_iff.mp within).resolve_left starts))

theorem Clear.patchedLonger (clear : Clear word patch) (within : word <:+: items)
    (other : word ≠ items) : patch.length < (replaceAll word patch items).length := by
  cases items with
  | nil => exact absurd (List.infix_nil.mp within) clear.filled
  | cons x rest =>
    by_cases starts : word <+: x :: rest
    · obtain ⟨after,same⟩ := starts
      have some : after ≠ [] := by
        intro none
        rw [none,List.append_nil] at same
        exact other same
      have more : replaceAll word patch after ≠ [] := patchedFilled clear.patchFilled some
      have longer := List.length_pos_of_ne_nil more
      rw [← same,patchedHere clear.filled,List.length_append]
      omega
    · have later := (List.infix_cons_iff.mp within).resolve_left starts
      have holds : patch <:+: replaceAll word patch rest := patchedHolds clear.filled later
      rw [patchedNext starts,List.length_cons]
      exact Nat.lt_succ_of_le holds.length_le

theorem Clear.around (clear : Clear word patch) : replaceAll word patch (before ++ (patch ++ after)) =
    replaceAll word patch before ++ (patch ++ replaceAll word patch after) := by
  induction size : before.length using Nat.strongRecOn generalizing before with
  | ind size ih =>
    subst size
    by_cases starts : word <+: before
    · obtain ⟨rest,rfl⟩ := starts
      have longer := List.length_pos_of_ne_nil clear.filled
      have shorter : rest.length < (word ++ rest).length := by
        rw [List.length_append]
        omega
      rw [List.append_assoc,patchedHere clear.filled,patchedHere clear.filled,ih _ shorter rfl,
        List.append_assoc]
    cases before with
    | nil => exact clear.pastPatch
    | cons x rest =>
      have still : ¬ word <+: x :: (rest ++ (patch ++ after)) :=
        fun begins => starts (clear.prefixBefore begins)
      rw [List.cons_append,patchedNext still,patchedNext starts,ih _ (Nat.lt_succ_self _) rfl,
        List.cons_append]

theorem Clear.pastAll (clear : ∀ word ∈ words, Clear word patch) :
    patchAll patch words (patch ++ rest) = patch ++ patchAll patch words rest := by
  induction words generalizing rest with
  | nil => rfl
  | cons word words ih =>
    obtain ⟨here,later⟩ := List.forall_mem_cons.mp clear
    rw [patchAll,List.foldl_cons,here.pastPatch]
    exact ih later

theorem Clear.standsBefore (clear : ∀ word ∈ words, Clear word patch)
    (absent : ∀ word ∈ words, ¬ word <:+: before) :
    patchAll patch words (before ++ patch) = before ++ patch := by
  induction words with
  | nil => rfl
  | cons word words ih =>
    obtain ⟨here,later⟩ := List.forall_mem_cons.mp clear
    obtain ⟨notHere,notLater⟩ := List.forall_mem_cons.mp absent
    have kept : replaceAll word patch (before ++ (patch ++ [])) = _ := here.around
    rw [unpatched notHere,List.append_nil] at kept
    rw [patchAll,List.foldl_cons,kept,replaceAll,replaceFrom,List.append_nil]
    exact ih later notLater

theorem Clear.outgrows (clear : ∀ word ∈ words, Clear word patch) (within : patch <:+: items)
    (longer : patch.length < items.length) : patch.length < (patchAll patch words items).length := by
  induction words generalizing items with
  | nil => exact longer
  | cons word words ih =>
    obtain ⟨here,later⟩ := List.forall_mem_cons.mp clear
    obtain ⟨before,after,rfl⟩ := within
    rw [patchAll,List.foldl_cons,List.append_assoc,here.around]
    apply ih later
    · exact ⟨_,_,List.append_assoc _ _ _⟩
    · have filled := here.patchFilled
      have grows {part : List α} (some : 0 < part.length) : 0 < (replaceAll word patch part).length :=
        List.length_pos_of_ne_nil (patchedFilled filled (List.ne_nil_of_length_pos some))
      simp only [List.length_append] at longer ⊢
      rcases Nat.eq_zero_or_pos before.length with none | some
      · have : 0 < after.length := by omega
        have := grows this
        omega
      · have := grows some
        omega

def Orderless (patch : List α) (words : List (List α)) : Prop :=
  ∀ order, order.Perm words → ∀ items, patchAll patch order items = patchAll patch words items

theorem Orderless.leading (orderless : Orderless patch words) (among : word ∈ words) (items : List α) :
    patchAll patch words items = patchAll patch (words.erase word) (replaceAll word patch items) :=
  (orderless _ (List.perm_cons_erase among).symm items).symm

theorem Orderless.begins (orderless : Orderless patch words)
    (clear : ∀ word ∈ words, Clear word patch) (among : word ∈ words) (rest : List α) :
    ∃ more, patchAll patch words (word ++ rest) = patch ++ more := by
  rw [orderless.leading among,patchedHere (clear word among).filled]
  exact ⟨_,Clear.pastAll fun other member => clear other (List.mem_of_mem_erase member)⟩

theorem Orderless.ends (orderless : Orderless patch words)
    (clear : ∀ word ∈ words, Clear word patch) (among : word ∈ words)
    (free : ∀ n < before.length, ¬ word <+: (before ++ word).drop n)
    (absent : ∀ other ∈ words, ¬ other <:+: before) :
    patchAll patch words (before ++ word) = before ++ patch := by
  rw [orderless.leading among,patchedPast free,patchedWhole (clear word among).filled]
  apply Clear.standsBefore
  · exact fun other member => clear other (List.mem_of_mem_erase member)
  · exact fun other member => absent other (List.mem_of_mem_erase member)

section Two
variable (orderless : Orderless patch words) (clear : ∀ word ∈ words, Clear word patch)
  (inFirst : first ∈ words) (inSecond : second ∈ words) (differ : first ≠ second)
include orderless clear inFirst inSecond differ

theorem Orderless.notWithin : ¬ second <:+: first := by
  intro within
  have rest (word : List α) : ∀ other ∈ words.erase word, Clear other patch :=
    fun other among => clear other (List.mem_of_mem_erase among)
  have whole : patchAll patch words first = patch := by
    have past : patchAll patch (words.erase first) (patch ++ []) = _ := Clear.pastAll (rest first)
    rw [patchedNone,List.append_nil] at past
    rw [orderless.leading inFirst,patchedWhole (clear first inFirst).filled,past]
  have longer := Clear.outgrows (rest second) (patchedHolds (clear second inSecond).filled within)
    ((clear second inSecond).patchedLonger within differ.symm)
  rw [← orderless.leading inSecond,whole] at longer
  exact Nat.lt_irrefl _ longer

theorem Orderless.notLapping (unbordered : Unbordered patch) (whole : first = before ++ piece)
    (begins : piece <+: second) : piece = [] := by
  induction size : before.length using Nat.strongRecOn generalizing before piece with
  | ind size ih =>
    subst size
    by_contra some
    obtain ⟨rest,follows⟩ := begins
    have within (other : List α) (among : other ∈ words) (unlike : first ≠ other) :
        ¬ other <:+: first := orderless.notWithin clear inFirst among unlike
    have part : before <:+: first := whole ▸ (List.prefix_append before piece).isInfix
    -- an earlier beginning of the second word would lap it over more of the first
    have free : ∀ n < before.length, ¬ second <+: (before ++ second).drop n := by
      intro n inside starts
      have cut : first = before.take n ++ (before.drop n ++ piece) := by
        rw [← List.append_assoc,List.take_append_drop,whole]
      have earlier : (before ++ second).drop n = (before.drop n ++ piece) ++ rest := by
        rw [List.drop_append_of_le_length (Nat.le_of_lt inside),List.append_assoc,follows]
      rw [earlier] at starts
      rcases List.prefix_or_prefix_of_prefix starts (List.prefix_append _ rest) with inner | outer
      · apply within second inSecond differ
        exact inner.isInfix.trans (cut ▸ (List.suffix_append _ _).isInfix)
      · have shorter : (before.take n).length < before.length := by
          rw [List.length_take]
          omega
        exact some (List.append_eq_nil_iff.mp (ih _ shorter cut outer rfl)).2
    have absent : ∀ other ∈ words, ¬ other <:+: before := by
      intro other among inside
      have longer := List.length_pos_of_ne_nil some
      apply within other among _ (inside.trans part)
      intro same
      have bound := inside.length_le
      rw [← same,whole,List.length_append] at bound
      omega
    obtain ⟨more,leads⟩ := orderless.begins clear inFirst rest
    have joined : first ++ rest = before ++ second := by rw [whole,← follows,List.append_assoc]
    rw [joined,orderless.ends clear inSecond free absent] at leads
    rcases unbordered.joined leads with none | starts
    · rw [none,List.nil_append] at whole
      have start : first <+: second := whole ▸ ⟨rest,follows⟩
      exact orderless.notWithin clear inSecond inFirst differ.symm start.isInfix
    · exact (clear first inFirst).outside (starts.isInfix.trans part)

theorem Orderless.apart (unbordered : Unbordered patch) : Clear first second where
  inside := orderless.notWithin clear inSecond inFirst differ.symm
  outside := orderless.notWithin clear inFirst inSecond differ
  ends := by
    intro piece ends begins
    obtain ⟨before,whole⟩ := ends
    exact orderless.notLapping clear inFirst inSecond differ unbordered whole.symm begins
  begins := by
    intro piece begins ends
    obtain ⟨before,whole⟩ := ends
    exact orderless.notLapping clear inSecond inFirst differ.symm unbordered whole.symm begins

end Two

theorem orderlessIff (clear : ∀ word ∈ words, Clear word patch) (unbordered : Unbordered patch) :
    Orderless patch words ↔
      ∀ first ∈ words, ∀ second ∈ words, first ≠ second → Clear first second := by
  constructor
  · intro orderless first inFirst second inSecond differ
    exact orderless.apart clear inFirst inSecond differ unbordered
  · intro apart order same items
    have among {word : List α} (member : word ∈ order) : word ∈ words := same.mem_iff.mp member
    apply patchedOrders same
    · exact fun word member => clear word (among member)
    · exact fun first inFirst second inSecond differ =>
        (apart first (among inFirst) second (among inSecond) differ).neverMeet

end BotGateway.Text
