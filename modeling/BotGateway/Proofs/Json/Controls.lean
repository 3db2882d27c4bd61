import BotGateway.Proofs.Json.Texts

/-! Which characters a written document holds. The notation is set in visible ASCII, and an escape
brings in nothing else; what is below the blank is always escaped, and what lies above stands where
a text of the document holds it. -/
namespace BotGateway.Json
variable {c d : CodePoint} {t : Text}

def isVisible (c : CodePoint) : Bool := 0x20 ≤ c.val && c.val < 0x7F

theorem foreignTo (visible : t.all isVisible = true) (foreign : isVisible c = false) : c ∉ t := by
  intro inside
  have mark := List.all_eq_true.mp visible c inside
  rw [foreign] at mark
  cases mark

theorem visibleControl (n : Fin 0x20) : (escapeOne (CodePoint.ofNat n)).all isVisible = true := by
  revert n
  decide

theorem escapeVisible (c : CodePoint) :
    escapeOne c = [c] ∧ 0x20 ≤ c.val ∨ (escapeOne c).all isVisible = true ∧ c.val < 0x7F := by
  by_cases control : c.val < 0x20
  · have same : c = CodePoint.ofNat (⟨c.val,control⟩ : Fin 0x20) :=
      Fin.ext (Nat.mod_eq_of_lt c.isLt).symm
    have visible := visibleControl ⟨c.val,control⟩
    rw [← same] at visible
    exact .inr ⟨visible,by omega⟩
  · rw [escapeOne]
    split
    · rename_i same
      rw [eq_of_beq same]
      exact .inr ⟨by decide,by decide⟩
    split
    · rename_i same
      rw [eq_of_beq same]
      exact .inr ⟨by decide,by decide⟩
    rw [if_pos (Nat.not_lt.mp control)]
    exact .inl ⟨rfl,Nat.not_lt.mp control⟩

section Foreign

theorem escapeForeign (foreign : isVisible c = false) : c ∈ escapeOne d ↔ 0x7F ≤ c.val ∧ c = d := by
  have outside : c.val < 0x20 ∨ 0x7F ≤ c.val := by
    simp only [isVisible,Bool.and_eq_false_iff,decide_eq_false_iff_not] at foreign
    omega
  rcases escapeVisible d with ⟨itself,printed⟩ | ⟨visible,ascii⟩
  · rw [itself,List.mem_singleton]
    constructor
    · intro same
      rw [← same] at printed
      exact ⟨by omega,same⟩
    · exact And.right
  · apply iff_of_false (foreignTo visible foreign)
    intro both
    obtain ⟨beyond,same⟩ := both
    rw [same] at beyond
    omega

theorem textForeign (foreign : isVisible c = false) : c ∈ escape t ↔ 0x7F ≤ c.val ∧ c ∈ t := by
  simp only [escape,List.mem_flatMap,escapeForeign foreign]
  constructor
  · intro escaped
    obtain ⟨d,inside,beyond,same⟩ := escaped
    exact ⟨beyond,same ▸ inside⟩
  · intro both
    obtain ⟨beyond,inside⟩ := both
    exact ⟨c,inside,beyond,rfl⟩

theorem quoteForeign (foreign : isVisible c = false) : c ∈ quote t ↔ 0x7F ≤ c.val ∧ c ∈ t := by
  have mark : c ∉ ("\"" : Text) := foreignTo (by decide) foreign
  have quoted : quote t = "\"" ++ escape t ++ "\"" := rfl
  rw [quoted,List.mem_append,List.mem_append,or_iff_right mark,or_iff_left mark,textForeign foreign]

theorem numeralVisible (n : Int) : (Numeral.ofInt n).all isVisible = true := by
  have natural (n : Nat) : (Numeral.ofNat n).all isVisible = true := by
    rw [List.all_eq_true]
    intro c inside
    have digit := (digitsNumeral n).2 c inside
    simp only [Class.isAsciiDigit,isVisible,Bool.and_eq_true,decide_eq_true_eq] at digit ⊢
    omega
  cases n with
  | ofNat n => exact natural n
  | negSucc n =>
    rw [Numeral.ofInt,List.all_append,natural (n + 1)]
    decide

theorem itemsForeign {items : List Json} (foreign : isVisible c = false)
    (each : ∀ item ∈ items, (c ∈ write spaced item ↔ 0x7F ≤ c.val ∧ c ∈ item.texts.flatten)) :
    c ∈ writeItems spaced items ↔ 0x7F ≤ c.val ∧ c ∈ (itemTexts items).flatten := by
  have mark : c ∉ spaced.item := foreignTo (by decide) foreign
  induction items with
  | nil => simp [writeItems,itemTexts]
  | cons item rest ih =>
    obtain ⟨first,later⟩ := List.forall_mem_cons.mp each
    have split : c ∈ writeItems spaced (item :: rest) ↔
        c ∈ write spaced item ∨ c ∈ writeItems spaced rest := by
      cases rest with
      | nil => simp [writeItems]
      | cons next rest => simp [writeItems,mark]
    have others : c ∈ writeItems spaced rest ↔ _ := ih later
    rw [split,first,others,itemTexts,List.flatten_append,List.mem_append,and_or_left]

theorem membersForeign {members : List (Text × Json)} (foreign : isVisible c = false)
    (each : ∀ member ∈ members,
      (c ∈ write spaced member.2 ↔ 0x7F ≤ c.val ∧ c ∈ member.2.texts.flatten)) :
    c ∈ writeMembers spaced members ↔ 0x7F ≤ c.val ∧ c ∈ (memberTexts members).flatten := by
  have item : c ∉ spaced.item := foreignTo (by decide) foreign
  have colon : c ∉ spaced.key := foreignTo (by decide) foreign
  induction members with
  | nil => simp [writeMembers,memberTexts]
  | cons member rest ih =>
    obtain ⟨first,later⟩ := List.forall_mem_cons.mp each
    have split : c ∈ writeMembers spaced (member :: rest) ↔
        (c ∈ quote member.1 ∨ c ∈ write spaced member.2) ∨ c ∈ writeMembers spaced rest := by
      cases rest with
      | nil => simp [writeMembers,colon]
      | cons next rest => simp [writeMembers,item,colon,or_assoc]
    have others : c ∈ writeMembers spaced rest ↔ _ := ih later
    rw [split,quoteForeign foreign,first,others,memberTexts,List.flatten_cons,List.flatten_append,
      List.mem_append,List.mem_append,and_or_left,and_or_left,or_assoc]

theorem writtenForeign {json : Json} (lasting : Lasting json) (foreign : isVisible c = false) :
    c ∈ write spaced json ↔ 0x7F ≤ c.val ∧ c ∈ json.texts.flatten := by
  have opens {before after : CodePoint} {inner : Text} (marks : [before,after].all isVisible = true) :
      c ∈ [before] ++ inner ++ [after] ↔ c ∈ inner := by
    have mark := foreignTo marks foreign
    simp only [List.mem_cons,List.not_mem_nil,or_false,not_or] at mark
    simp [mark]
  have bare {word : Text} (visible : word.all isVisible = true) :
      c ∈ word ↔ 0x7F ≤ c.val ∧ c ∈ ([] : List Text).flatten :=
    iff_of_false (foreignTo visible foreign) (fun inside => List.not_mem_nil inside.2)
  induction lasting with
  | null => exact bare (by decide)
  | bool b =>
    cases b with
    | false => exact bare (by decide)
    | true => exact bare (by decide)
  | @int n short => exact bare (numeralVisible n)
  | text t =>
    rw [write,texts,List.flatten_singleton]
    exact quoteForeign foreign
  | array lasting ih => exact (opens (by decide)).trans (itemsForeign foreign ih)
  | object apart lasting ih => exact (opens (by decide)).trans (membersForeign foreign ih)

end Foreign

end BotGateway.Json
