import BotGateway.Proofs.Text.Pieces
import Mathlib.Data.List.Infix
import Mathlib.Data.List.Perm.Basic

/-! Words patched one after another. Where the patch leaves them alone and no two of them meet in a
text, their order does not matter. -/
namespace BotGateway.Text
variable {α : Type} {word old first second patch items piece before after rest : List α}

theorem Clear.symm (clear : Clear first second) : Clear second first where
  inside := clear.outside
  outside := clear.inside
  ends := fun piece last start => clear.begins piece start last
  begins := fun piece start last => clear.ends piece last start

instance [DecidableEq α] (word patch : List α) : Decidable (Clear word patch) :=
  decidable_of_iff (¬ word <:+: patch ∧ ¬ patch <:+: word ∧
    (∀ piece ∈ patch.inits, piece <:+ word → piece = []) ∧
    ∀ piece ∈ word.inits, piece <:+ patch → piece = []) <| by
  simp only [List.mem_inits]
  exact ⟨fun ⟨inside,outside,ends,begins⟩ =>
      ⟨inside,outside,fun piece last start => ends piece start last,begins⟩,
    fun clear => ⟨clear.inside,clear.outside,fun piece start last => clear.ends piece last start,
      clear.begins⟩⟩

theorem Clear.notBegun (clear : Clear word patch) (ends : piece <:+ patch) (some : piece ≠ []) :
    ¬ word <+: piece ++ after := by
  intro begins
  rcases List.prefix_or_prefix_of_prefix begins (List.prefix_append piece after) with part | whole
  · exact clear.inside (part.isInfix.trans ends.isInfix)
  · exact some (clear.begins piece whole ends)

theorem Clear.patchFilled (clear : Clear word patch) : patch ≠ [] := clear.symm.filled

theorem Clear.prefixBefore (clear : Clear word patch) (begins : word <+: before ++ (patch ++ after)) :
    word <+: before := by
  rcases List.prefix_or_prefix_of_prefix begins (List.prefix_append before _) with inner | outer
  · exact inner
  · obtain ⟨piece,same⟩ := outer
    have follows : piece <+: patch ++ after := by
      rwa [← same,List.prefix_append_right_inj] at begins
    have none := clear.stops (same ▸ List.suffix_append before piece) follows
    rw [none,List.append_nil] at same
    rw [same]

section Meeting

def Onto (first second items : List α) : Prop :=
  first <+: items ∧ ∃ n < first.length, second <+: items.drop n

inductive Meet (first second : List α) : List α → Prop where
  | onto {items : List α} (here : Onto first second items) : Meet first second items
  | under {items : List α} (here : Onto second first items) : Meet first second items
  | later {x : α} {rest : List α} (meet : Meet first second rest) : Meet first second (x :: rest)

theorem Meet.longer (meet : Meet first second rest) (ends : rest <:+ items) :
    Meet first second items := by
  induction items with
  | nil => exact List.suffix_nil.mp ends ▸ meet
  | cons x items ih =>
    rcases List.suffix_cons_iff.mp ends with same | inner
    · exact same ▸ meet
    · exact .later (ih inner)

theorem Clear.notOnto (clear : Clear first second) : ¬ Onto first second items := by
  intro here
  obtain ⟨starts,n,within,begins⟩ := here
  have ends : first.drop n <+: items.drop n := List.IsPrefix.drop starts n
  rcases List.prefix_or_prefix_of_prefix begins ends with inner | outer
  · exact clear.outside (inner.isInfix.trans (List.drop_suffix n first).isInfix)
  · have none := List.drop_eq_nil_iff.mp (clear.ends _ (List.drop_suffix n first) outer)
    omega

theorem Clear.neverMeet (clear : Clear first second) : ¬ Meet first second items := by
  intro meet
  induction meet with
  | onto here => exact clear.notOnto here
  | under here => exact clear.symm.notOnto here
  | later _ ih => exact ih

theorem Clear.meetBehind (clearFirst : Clear first patch) (clearSecond : Clear second patch)
    (ends : piece <:+ patch) (meet : Meet first second (piece ++ after)) :
    Meet first second after := by
  induction piece with
  | nil => exact meet
  | cons x piece ih =>
    have some : x :: piece ≠ [] := List.cons_ne_nil x piece
    cases meet with
    | onto here => exact absurd here.1 (clearFirst.notBegun ends some)
    | under here => exact absurd here.1 (clearSecond.notBegun ends some)
    | later meet => exact ih ((List.suffix_cons x piece).trans ends) meet

end Meeting

section Patched
variable [BEq α]

theorem replaceCovered (n : Nat) : replaceFrom old patch n items = replaceAll old patch (items.drop n) := by
  induction items generalizing n with
  | nil => rw [List.drop_nil,replaceAll,replaceFrom,replaceFrom]
  | cons x rest ih =>
    cases n with
    | zero => rfl
    | succ n => exact ih n

theorem patchedFilled (filled : patch ≠ []) (some : items ≠ []) : replaceAll word patch items ≠ [] := by
  cases items with
  | nil => exact absurd rfl some
  | cons x rest =>
    rw [replaceAll,replaceFrom]
    split
    · exact List.append_ne_nil_of_left_ne_nil filled _
    · exact List.cons_ne_nil x _

def patchAll (patch : List α) (words : List (List α)) (items : List α) : List α :=
  words.foldl (fun items word => replaceAll word patch items) items

theorem patchedNone {words : List (List α)} : patchAll patch words [] = [] := by
  induction words with
  | nil => rfl
  | cons word words ih => exact ih

theorem Clear.ontoKept (clearFirst : Clear first patch) (clearSecond : Clear second patch)
    (ends : piece <:+ first) (begins : piece <+: replaceFrom old patch 0 items) {n : Nat}
    (within : n < piece.length) (other : second <+: (replaceFrom old patch 0 items).drop n) :
    second <+: items.drop n := by
  induction items generalizing piece n with
  | nil => exact other
  | cons x rest ih =>
    cases n with
    | zero => exact clearSecond.prefixKept List.suffix_rfl other
    | succ n =>
      rw [replaceFrom] at begins other
      split at begins
      -- the end of the first word would begin at the patch
      · rw [clearFirst.stops ends begins] at within
        cases within
      · rename_i unlike
        rw [if_neg unlike] at other
        rcases List.prefix_cons_iff.mp begins with same | ⟨later,same,follows⟩
        · rw [same] at within
          cases within
        · rw [same] at ends within
          exact ih ((List.suffix_cons x later).trans ends) follows (Nat.lt_of_succ_lt_succ within) other

theorem Clear.onto (clearFirst : Clear first patch) (clearSecond : Clear second patch)
    (here : Onto first second (replaceAll old patch items)) : Onto first second items := by
  obtain ⟨starts,n,within,begins⟩ := here
  exact ⟨clearFirst.prefixKept List.suffix_rfl starts,n,within,
    clearFirst.ontoKept clearSecond List.suffix_rfl starts within begins⟩

theorem Clear.meetKept (clearFirst : Clear first patch) (clearSecond : Clear second patch) {n : Nat}
    (meet : Meet first second (replaceFrom old patch n items)) :
    Meet first second (items.drop n) := by
  induction items generalizing n with
  | nil => rwa [List.drop_nil]
  | cons x rest ih =>
    cases n with
    | succ n => exact ih meet
    | zero =>
      have kept : Onto first second (replaceAll old patch (x :: rest)) →
          Onto first second (x :: rest) := clearFirst.onto clearSecond
      have keptUnder : Onto second first (replaceAll old patch (x :: rest)) →
          Onto second first (x :: rest) := clearSecond.onto clearFirst
      rw [replaceAll,replaceFrom] at kept keptUnder
      rw [replaceFrom] at meet
      split at meet
      · have behind := clearFirst.meetBehind clearSecond List.suffix_rfl meet
        exact (ih behind).longer ((List.drop_suffix _ rest).trans (List.suffix_cons x rest))
      · rename_i unlike
        rw [if_neg unlike] at kept keptUnder
        cases meet with
        | onto here => exact .onto (kept here)
        | under here => exact .under (keptUnder here)
        | later meet => exact .later (ih meet)

variable [LawfulBEq α]

theorem patchedNext {x : α} (unlike : ¬ word <+: x :: rest) :
    replaceAll word patch (x :: rest) = x :: replaceAll word patch rest := by
  rw [replaceAll,replaceFrom,if_neg fun here => unlike (List.isPrefixOf_iff_prefix.mp here)]
  rfl

theorem patchedHere (filled : word ≠ []) :
    replaceAll word patch (word ++ rest) = patch ++ replaceAll word patch rest := by
  cases word with
  | nil => exact absurd rfl filled
  | cons x word =>
    have here : (x :: word).isPrefixOf (x :: (word ++ rest)) = true :=
      List.isPrefixOf_iff_prefix.mpr (List.prefix_append (x :: word) rest)
    rw [List.cons_append,replaceAll,replaceFrom,if_pos here,replaceCovered,List.length_cons,
      Nat.add_sub_cancel,List.drop_left]

theorem patchedPast (free : ∀ n < before.length, ¬ word <+: (before ++ rest).drop n) :
    replaceAll word patch (before ++ rest) = before ++ replaceAll word patch rest := by
  induction before with
  | nil => rfl
  | cons x before ih =>
    have later : ∀ n < before.length, ¬ word <+: (before ++ rest).drop n :=
      fun n within => free (n + 1) (Nat.succ_lt_succ within)
    have unlike : ¬ word <+: x :: (before ++ rest) := free 0 (Nat.succ_pos before.length)
    rw [List.cons_append,patchedNext unlike,ih later,List.cons_append]

theorem Clear.pastPatch (clear : Clear word patch) :
    replaceAll word patch (patch ++ rest) = patch ++ replaceAll word patch rest := by
  apply patchedPast
  intro n within begins
  exact clear.symm.notOnto ⟨List.prefix_append patch rest,n,within,begins⟩

theorem Clear.leading (clearFirst : Clear first patch) (clearSecond : Clear second patch)
    (apart : ¬ Onto first second (first ++ rest)) :
    replaceAll first patch (replaceAll second patch (first ++ rest)) =
      patch ++ replaceAll first patch (replaceAll second patch rest) ∧
    replaceAll second patch (replaceAll first patch (first ++ rest)) =
      patch ++ replaceAll second patch (replaceAll first patch rest) := by
  have past : replaceAll second patch (first ++ rest) = first ++ replaceAll second patch rest := by
    apply patchedPast
    intro n within begins
    exact apart ⟨List.prefix_append first rest,n,within,begins⟩
  constructor
  · rw [past,patchedHere clearFirst.filled]
  · rw [patchedHere clearFirst.filled,clearSecond.pastPatch]

theorem Clear.patchedEither (clearFirst : Clear first patch) (clearSecond : Clear second patch)
    (apart : ¬ Meet first second items) :
    replaceAll first patch (replaceAll second patch items) =
      replaceAll second patch (replaceAll first patch items) := by
  induction size : items.length using Nat.strongRecOn generalizing items with
  | ind size ih =>
    subst size
    have shorter (word rest : List α) (filled : word ≠ []) :
        rest.length < (word ++ rest).length := by
      have longer := List.length_pos_of_ne_nil filled
      rw [List.length_append]
      omega
    by_cases startsFirst : first <+: items
    · obtain ⟨rest,rfl⟩ := startsFirst
      have leads := clearFirst.leading clearSecond fun here => apart (.onto here)
      rw [leads.1,leads.2,ih _ (shorter first rest clearFirst.filled) _ rfl]
      exact fun meet => apart (meet.longer (List.suffix_append first rest))
    by_cases startsSecond : second <+: items
    · obtain ⟨rest,rfl⟩ := startsSecond
      have leads := clearSecond.leading clearFirst fun here => apart (.under here)
      rw [leads.1,leads.2,ih _ (shorter second rest clearSecond.filled) _ rfl]
      exact fun meet => apart (meet.longer (List.suffix_append second rest))
    cases items with
    | nil => rfl
    | cons x rest =>
      have inFirst : replaceAll first patch (x :: rest) = _ := patchedNext startsFirst
      have inSecond : replaceAll second patch (x :: rest) = _ := patchedNext startsSecond
      -- neither word comes to stand here by what is patched behind it
      have stillFirst : ¬ first <+: x :: replaceAll second patch rest := by
        rw [← inSecond]
        exact fun begins => startsFirst (clearFirst.prefixKept List.suffix_rfl begins)
      have stillSecond : ¬ second <+: x :: replaceAll first patch rest := by
        rw [← inFirst]
        exact fun begins => startsSecond (clearSecond.prefixKept List.suffix_rfl begins)
      rw [inFirst,inSecond,patchedNext stillFirst,patchedNext stillSecond,
        ih _ (Nat.lt_succ_self _) _ rfl]
      exact fun meet => apart (.later meet)

end Patched

section Orders
variable [BEq α] [LawfulBEq α] {words order : List (List α)}

theorem patchedOrders (same : order.Perm words) (clear : ∀ word ∈ order, Clear word patch)
    (apart : ∀ first ∈ order, ∀ second ∈ order, first ≠ second → ¬ Meet first second items) :
    patchAll patch order items = patchAll patch words items := by
  induction same generalizing items with
  | nil => rfl
  | cons word _ ih =>
    have later := fun other among => clear other (List.mem_cons_of_mem word among)
    apply ih later
    intro first inFirst second inSecond differ meet
    exact apart first (List.mem_cons_of_mem word inFirst) second (List.mem_cons_of_mem word inSecond)
      differ ((later first inFirst).meetKept (later second inSecond) meet)
  | swap first second rest =>
    by_cases same : second = first
    · rw [same]
    · have inRest : first ∈ second :: first :: rest := List.mem_cons_of_mem second List.mem_cons_self
      have either := (clear first inRest).patchedEither (clear second List.mem_cons_self)
        (apart first inRest second List.mem_cons_self (Ne.symm same))
      rw [patchAll,patchAll,List.foldl_cons,List.foldl_cons,List.foldl_cons,List.foldl_cons,either]
  | trans leads _ ihFirst ihSecond =>
    rw [ihFirst clear apart]
    apply ihSecond
    · exact fun word among => clear word (leads.mem_iff.mpr among)
    · exact fun first inFirst second inSecond =>
        apart first (leads.mem_iff.mpr inFirst) second (leads.mem_iff.mpr inSecond)

end Orders

end BotGateway.Text
