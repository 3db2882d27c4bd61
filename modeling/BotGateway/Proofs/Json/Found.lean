import BotGateway.Json.Reader
import BotGateway.Proofs.Number.Layout

/-! What a document that was read is made of. Its texts are strings that stand in the text it was read
from, its integers have no more digits than a numeral may, and reading leaves an end of the text. -/
namespace BotGateway

namespace Numeral
open Binary64 (Small)

theorem valueBelow {digits : List Nat} (small : Small digits) (before : Nat) :
    digits.foldl (fun n d => n * 10 + d) before < (before + 1) * 10 ^ digits.length := by
  induction digits generalizing before with
  | nil => simp
  | cons d rest ih =>
    have first : d < 10 := small d List.mem_cons_self
    have later := ih (fun d member => small d (List.mem_cons_of_mem _ member)) (before * 10 + d)
    calc rest.foldl (fun n d => n * 10 + d) (before * 10 + d)
        < (before * 10 + d + 1) * 10 ^ rest.length := later
      _ ≤ ((before + 1) * 10) * 10 ^ rest.length := Nat.mul_le_mul_right _ (by omega)
      _ = (before + 1) * 10 ^ (rest.length + 1) := by rw [Nat.pow_succ]; ring

theorem signedShort {digits : List Nat} (small : Small digits) (some : digits ≠ [])
    (few : digits.length ≤ maxDigits) (negative : Bool) :
    isLong (signed negative (value 10 digits)) = false := by
  have below : value 10 digits < 10 ^ digits.length := by
    simpa [value] using valueBelow small 0
  have size : (signed negative (value 10 digits)).natAbs = value 10 digits := by
    cases negative <;> simp [signed]
  have written := Nat.toDigits_length 10 _ _ (List.length_pos_iff.mpr some) below
  rw [isLong,size,decide_eq_false_iff_not]
  omega

theorem signSuffix (t : Text) : (afterSign t).2 <:+ t := by
  unfold afterSign
  split
  · exact List.suffix_rfl
  · split
    · exact List.suffix_cons _ _
    · split
      · exact List.suffix_cons _ _
      · exact List.suffix_rfl

end Numeral

namespace Json
variable {dialect : Dialect} {whole t rest : Text} {json : Json}

inductive Found (dialect : Dialect) (whole : Text) : Json → Prop where
  | null : Found dialect whole .null
  | bool (b : Bool) : Found dialect whole (.bool b)
  | int {n : Int} (short : Numeral.isLong n = false) : Found dialect whole (.int n)
  | float (x : Binary64) : Found dialect whole (.float x)
  | text {start rest t : Text} (stands : start <:+ whole)
      (read : string dialect start = some (t,rest)) : Found dialect whole (.text t)
  | array {items : List Json} (found : ∀ item ∈ items, Found dialect whole item) :
      Found dialect whole (.array items)
  | object {members : List (Text × Json)}
      (found : ∀ member ∈ members, Found dialect whole member.2) : Found dialect whole (.object members)

section Pairs
variable {members : List (Text × Json)} {key : Text}

theorem insertFound (new : Found dialect whole json)
    (found : ∀ member ∈ members, Found dialect whole member.2) :
    ∀ member ∈ insert key json members, Found dialect whole member.2 := by
  induction members with
  | nil =>
    intro member among
    obtain rfl := List.mem_singleton.mp among
    exact new
  | cons first rest ih =>
    have later := ih fun member among => found member (List.mem_cons_of_mem _ among)
    intro member among
    rw [insert] at among
    split at among
    · rcases List.mem_cons.mp among with rfl | inRest
      · exact new
      · exact found member (List.mem_cons_of_mem _ inRest)
    · rcases List.mem_cons.mp among with rfl | inRest
      · exact found _ List.mem_cons_self
      · exact later member inRest

theorem ofPairsFound (found : ∀ member ∈ members, Found dialect whole member.2) :
    Found dialect whole (ofPairs members) := by
  have folded : ∀ before : List (Text × Json), (∀ member ∈ before, Found dialect whole member.2) →
      ∀ member ∈ members.foldl (fun found first => insert first.1 first.2 found) before,
        Found dialect whole member.2 := by
    induction members with
    | nil => exact fun before begun => begun
    | cons first rest ih =>
      intro before begun
      exact ih (fun member among => found member (List.mem_cons_of_mem _ among)) _
        (insertFound (found first List.mem_cons_self) begun)
  exact .object (folded [] fun _ among => absurd among List.not_mem_nil)

end Pairs

section Strings

theorem skipSuffix (t : Text) : skip t <:+ t := List.dropWhile_suffix _

inductive Cut : Text → List Piece → Text → Prop where
  | ends {mark : CodePoint} {rest : Text} : Cut (mark :: rest) [] rest
  | plain {c : CodePoint} {t rest : Text} {found : List Piece} (later : Cut t found rest) :
      Cut (c :: t) (.plain c :: found) rest
  | escaped {back e c : CodePoint} {t rest : Text} {found : List Piece}
      (simple : simpleEscape e = some c) (later : Cut t found rest) :
      Cut (back :: e :: t) (.plain c :: found) rest
  | numbered {back u a b c d : CodePoint} {n : Nat} {t rest : Text} {found : List Piece}
      (small : n < 0x10000) (later : Cut t found rest) :
      Cut (back :: u :: a :: b :: c :: d :: t) (.numbered n :: found) rest

theorem hexSmall {c : CodePoint} {n : Nat} (digit : Class.hexValue c = some n) : n < 16 := by
  unfold Class.hexValue at digit
  simp only [Class.isAsciiDigit,Bool.and_eq_true,decide_eq_true_eq] at digit
  repeat' split at digit
  all_goals cases digit
  all_goals omega

theorem piecesCut {found : List Piece} (read : pieces t = some (found,rest)) : Cut t found rest := by
  fun_induction pieces t generalizing found with
  | case2 =>
    cases read
    exact .ends
  | case4 _ _ _ _ _ ih =>
    obtain ⟨⟨others,_⟩,later,same⟩ := Option.map_eq_some_iff.mp read
    cases same
    exact .plain (ih later)
  | case6 _ _ _ _ _ _ _ simple ih =>
    obtain ⟨⟨others,_⟩,later,same⟩ := Option.map_eq_some_iff.mp read
    cases same
    exact .escaped simple (ih later)
  | case8 =>
    rename_i fourth third second first _ ih
    obtain ⟨⟨others,_⟩,later,same⟩ := Option.map_eq_some_iff.mp read
    have a := hexSmall first
    have b := hexSmall second
    have c := hexSmall third
    have d := hexSmall fourth
    cases same
    exact .numbered (by omega) (ih later)
  | _ => cases read

theorem Cut.suffix {found : List Piece} (cut : Cut t found rest) : rest <:+ t := by
  induction cut with
  | ends => exact List.suffix_cons _ _
  | plain _ ih => exact ih.trans (List.suffix_cons _ _)
  | escaped _ _ ih => exact ih.trans (List.suffix_append [_,_] _)
  | numbered _ _ ih => exact ih.trans (List.suffix_append [_,_,_,_,_,_] _)

theorem stringSuffix {content : Text} (read : string dialect t = some (content,rest)) : rest <:+ t := by
  obtain ⟨⟨found,tail⟩,inText,read⟩ := Option.bind_eq_some_iff.mp read
  obtain ⟨joined,_,same⟩ := Option.bind_eq_some_iff.mp read
  cases same
  exact (piecesCut inText).suffix

end Strings

section Numbers

theorem smallPlain (t : Text) : Binary64.Small (plainDigits t).1 := by
  intro d member
  obtain ⟨c,among,rfl⟩ := List.mem_map.mp member
  have digit := List.mem_takeWhile_imp among
  simp only [Class.isAsciiDigit,Bool.and_eq_true,decide_eq_true_eq] at digit
  omega

theorem plainSuffix (t : Text) : (plainDigits t).2 <:+ t := List.dropWhile_suffix _

structure WholeRead (t : Text) (digits : List Nat) (rest : Text) : Prop where
  small : Binary64.Small digits
  filled : digits ≠ []
  suffix : rest <:+ t

theorem wholeRead {digits : List Nat} (read : wholeDigits t = some (digits,rest)) :
    WholeRead t digits rest := by
  unfold wholeDigits at read
  split at read
  · cases read
  · split at read
    · cases read
      exact ⟨Binary64.smallZeros 1,List.cons_ne_nil 0 [],List.suffix_cons _ _⟩
    · split at read
      · cases read
      · rename_i filled
        cases read
        exact ⟨smallPlain _,fun none => filled _ (Prod.ext none rfl),
          List.dropWhile_suffix _⟩

theorem fractionSuffix {digits : List Nat} (read : fractionDigits t = some (digits,rest)) :
    rest <:+ t := by
  unfold fractionDigits at read
  split at read
  · cases read
    exact List.suffix_rfl
  · split at read
    · cases read
      exact List.suffix_rfl
    · split at read
      · cases read
      · cases read
        exact (plainSuffix _).trans (List.suffix_cons _ _)

theorem exponentSuffix {power : Option Int} (read : exponentPart t = some (power,rest)) :
    rest <:+ t := by
  unfold exponentPart at read
  split at read
  · cases read
    exact List.suffix_rfl
  · split at read
    · cases read
      exact List.suffix_rfl
    · dsimp only at read
      split at read
      · cases read
      · rename_i c t _ _ _ _ _ plain
        cases read
        have digits := plainSuffix (Numeral.afterSign t).2
        rw [plain] at digits
        exact digits.trans ((Numeral.signSuffix t).trans (List.suffix_cons c t))

theorem numberFound {negative : Bool} (read : number negative t = some (json,rest)) :
    Found dialect whole json ∧ rest <:+ t := by
  unfold number at read
  obtain ⟨⟨digits,afterWhole⟩,inWhole,read⟩ := Option.bind_eq_some_iff.mp read
  obtain ⟨⟨fraction,afterFraction⟩,inFraction,read⟩ := Option.bind_eq_some_iff.mp read
  obtain ⟨⟨power,afterPower⟩,inPower,read⟩ := Option.bind_eq_some_iff.mp read
  have digitsRead := wholeRead inWhole
  have suffix : afterPower <:+ t :=
    (exponentSuffix inPower).trans ((fractionSuffix inFraction).trans digitsRead.suffix)
  dsimp only at read
  split at read
  · split at read
    · cases read
    · rename_i few
      cases read
      exact ⟨.int (Numeral.signedShort digitsRead.small digitsRead.filled (Nat.not_lt.mp few) negative),
        suffix⟩
  · cases read
    exact ⟨.float _,suffix⟩

theorem namesFound : ∀ entry ∈ names, Found dialect whole entry.2 := by
  simp only [names,List.forall_mem_cons,List.not_mem_nil,false_imp_iff,implies_true,and_true]
  exact ⟨.null,.bool true,.bool false,.float _,.float _,.float _⟩

theorem scalarFound (read : scalar t = some (json,rest)) : Found dialect whole json ∧ rest <:+ t := by
  unfold scalar at read
  split at read
  · rename_i found
    cases read
    exact ⟨namesFound _ (List.mem_of_find?_eq_some found),List.drop_suffix _ _⟩
  · split at read
    · split at read
      · obtain ⟨found,suffix⟩ := numberFound read
        exact ⟨found,suffix.trans (List.suffix_cons _ _)⟩
      · exact numberFound read
    · cases read

end Numbers

mutual

theorem valueFound {fuel depth : Nat} {t rest : Text} {json : Json} (stands : t <:+ whole)
    (read : value dialect fuel depth t = some (json,rest)) : Found dialect whole json ∧ rest <:+ t := by
  match fuel, t with
  | 0, _ | _ + 1, [] => simp [value] at read
  | fuel + 1, c :: t =>
    have below : t <:+ c :: t := List.suffix_cons c t
    have later {b tail} (skipped : skip t = b :: tail) : tail <:+ c :: t :=
      (List.suffix_cons b tail).trans ((skipped ▸ skipSuffix t).trans below)
    unfold value at read
    split at read
    · obtain ⟨⟨content,_⟩,inText,same⟩ := Option.map_eq_some_iff.mp read
      cases same
      exact ⟨.text (below.trans stands) inText,(stringSuffix inText).trans below⟩
    split at read
    · split at read
      · cases read
      · rename_i skipped
        split at read <;> cases read
        exact ⟨.array nofun,later skipped⟩
      · rename_i b tail _ skipped
        split at read
        · cases read
          exact ⟨.array nofun,later skipped⟩
        · obtain ⟨⟨xs,_⟩,inItems,same⟩ := Option.map_eq_some_iff.mp read
          cases same
          have follows : b :: tail <:+ c :: t := (skipped ▸ skipSuffix t).trans below
          obtain ⟨found,suffix⟩ := itemsFound (follows.trans stands) inItems
          exact ⟨.array found,suffix.trans follows⟩
    split at read
    · split at read
      · cases read
      · rename_i skipped
        split at read <;> cases read
        exact ⟨.object nofun,later skipped⟩
      · rename_i b tail _ skipped
        split at read
        · cases read
          exact ⟨.object nofun,later skipped⟩
        · obtain ⟨⟨ms,_⟩,inMembers,same⟩ := Option.map_eq_some_iff.mp read
          cases same
          have follows : b :: tail <:+ c :: t := (skipped ▸ skipSuffix t).trans below
          obtain ⟨found,suffix⟩ := membersFound (follows.trans stands) inMembers
          exact ⟨ofPairsFound found,suffix.trans follows⟩
    exact scalarFound read

theorem itemsFound {fuel depth : Nat} {t rest : Text} {xs : List Json} (stands : t <:+ whole)
    (read : items dialect fuel depth t = some (xs,rest)) :
    (∀ x ∈ xs, Found dialect whole x) ∧ rest <:+ t := by
  match fuel with
  | 0 => simp [items] at read
  | fuel + 1 =>
    unfold items at read
    obtain ⟨⟨x,afterFirst⟩,first,read⟩ := Option.bind_eq_some_iff.mp read
    obtain ⟨found,suffix⟩ := valueFound stands first
    dsimp only at read
    split at read
    · cases read
    rename_i c tail skipped
    have below : tail <:+ t :=
      (List.suffix_cons c tail).trans ((skipped ▸ skipSuffix afterFirst).trans suffix)
    split at read
    · cases read
      exact ⟨by simpa using found,below⟩
    split at read
    · obtain ⟨⟨others,_⟩,later,same⟩ := Option.bind_eq_some_iff.mp read
      cases same
      have follows : skip tail <:+ t := (skipSuffix tail).trans below
      obtain ⟨rest,suffix⟩ := itemsFound (follows.trans stands) later
      exact ⟨List.forall_mem_cons.mpr ⟨found,rest⟩,suffix.trans follows⟩
    · cases read

theorem membersFound {fuel depth : Nat} {t rest : Text} {ms : List (Text × Json)} (stands : t <:+ whole)
    (read : members dialect fuel depth t = some (ms,rest)) :
    (∀ member ∈ ms, Found dialect whole member.2) ∧ rest <:+ t := by
  match fuel, t with
  | 0, _ | _ + 1, [] => simp [members] at read
  | fuel + 1, q :: t =>
    unfold members at read
    split at read
    · cases read
    obtain ⟨⟨key,afterKey⟩,inKey,read⟩ := Option.bind_eq_some_iff.mp read
    have keySuffix := (stringSuffix inKey).trans (List.suffix_cons q t)
    dsimp only at read
    split at read
    · cases read
    rename_i colon tail skippedKey
    have fromColon : tail <:+ q :: t :=
      (List.suffix_cons colon tail).trans ((skippedKey ▸ skipSuffix afterKey).trans keySuffix)
    split at read
    · cases read
    obtain ⟨⟨x,afterFirst⟩,first,read⟩ := Option.bind_eq_some_iff.mp read
    have fromValue : skip tail <:+ q :: t := (skipSuffix tail).trans fromColon
    obtain ⟨found,suffix⟩ := valueFound (fromValue.trans stands) first
    dsimp only at read
    split at read
    · cases read
    rename_i c more skipped
    have below : more <:+ q :: t := (List.suffix_cons c more).trans
      ((skipped ▸ skipSuffix afterFirst).trans (suffix.trans fromValue))
    split at read
    · cases read
      exact ⟨by simpa using found,below⟩
    split at read
    · obtain ⟨⟨others,_⟩,later,same⟩ := Option.bind_eq_some_iff.mp read
      cases same
      have follows : skip more <:+ q :: t := (skipSuffix more).trans below
      obtain ⟨rest,suffix⟩ := membersFound (follows.trans stands) later
      exact ⟨List.forall_mem_cons.mpr ⟨found,rest⟩,suffix.trans follows⟩
    · cases read

end

theorem strictFound {raw : Bytes} (read : ofStrictBytes? raw = some json) :
    ∃ whole, Utf8.decode? raw = some whole ∧ Found strict whole json := by
  obtain ⟨whole,decoded,read⟩ := Option.bind_eq_some_iff.mp read
  obtain ⟨⟨found,rest⟩,inText,read⟩ := Option.bind_eq_some_iff.mp read
  dsimp only at read
  split at read
  · cases read
    exact ⟨whole,decoded,(valueFound (skipSuffix whole) inText).1⟩
  · cases read

end Json
end BotGateway
