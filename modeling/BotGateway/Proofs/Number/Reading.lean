import BotGateway.Number.Numeral

/-! Reading numerals that consist of digits alone. In decimal there is a number exactly where every
digit is a decimal one and there are not too many; superscripts, for one, are digits that are not
decimal. Hexadecimal digits always make a number. -/
namespace BotGateway

namespace Class

theorem withinApart {r s : Ranges} (apart : ∀ a ∈ r, ∀ b ∈ s, a.2 < b.1 ∨ b.2 < a.1)
    {c : CodePoint} (inside : within r c = true) : within s c = false := by
  cases other : within s c with
  | false => rfl
  | true =>
    obtain ⟨a,amongR,holdsA⟩ := List.any_eq_true.mp inside
    obtain ⟨b,amongS,holdsB⟩ := List.any_eq_true.mp other
    simp only [Bool.and_eq_true,decide_eq_true_eq] at holdsA holdsB
    have := apart a amongR b amongS
    omega

theorem decimalWithin (c : CodePoint) :
    isDecimal c = within (decimalZeros.map fun first => (first,first + 9)) c := by
  rw [Bool.eq_iff_iff,isDecimal,decimalValue,Option.isSome_map,List.find?_isSome,within,
    List.any_map,List.any_eq_true]
  simp only [Function.comp,Bool.and_eq_true,decide_eq_true_eq,Nat.lt_succ_iff]

theorem asciiDecimal {c : CodePoint} (digit : isAsciiDigit c = true) :
    decimalValue c = some (c.val - 48) := by
  simp only [isAsciiDigit,Bool.and_eq_true,decide_eq_true_eq] at digit
  have first : (decide (0x30 ≤ c.val) && decide (c.val < 0x30 + 10)) = true := by
    simp only [Bool.and_eq_true,decide_eq_true_eq]
    omega
  have found : decimalZeros.find? (fun first => first ≤ c.val && c.val < first + 10) = some 0x30 :=
    List.find?_cons_of_pos first
  rw [decimalValue,found]
  rfl

theorem decimalDigit {c : CodePoint} (decimal : isDecimal c = true) : isDigit c = true := by
  rw [isDigit,decimal,Bool.true_or]

theorem blankNoDigit {c : CodePoint} (blank : isBlank c = true) : isDigit c = false := by
  rw [isDigit,decimalWithin,withinApart (by decide) blank,withinApart (by decide) blank]
  rfl

end Class

namespace Numeral
open BotGateway.Class

theorem marginBlank {c : CodePoint} (margin : isMargin c = true) : isBlank c = true := by
  simp only [isMargin,Bool.or_eq_true,beq_iff_eq,Bool.and_eq_true,decide_eq_true_eq] at margin
  obtain (rfl | control) | ⟨_,blank⟩ := margin
  · decide
  · exact List.any_eq_true.mpr ⟨(0x9,0xD),by decide,by simpa using control⟩
  · exact blank

theorem digitNoMargin {c : CodePoint} (digit : isDigit c = true) : isMargin c = false := by
  cases margin : isMargin c with
  | false => rfl
  | true => simp [blankNoDigit (marginBlank margin)] at digit

theorem digitNoMark {c : CodePoint} (digit : isDigit c = true) :
    c ≠ '_' ∧ c ≠ '-' ∧ c ≠ '+' := by
  refine ⟨?_,?_,?_⟩
  all_goals
    intro same
    subst same
    revert digit
    decide

variable {digit : CodePoint → Option Nat} {text rest : Text} {digits : List Nat}

theorem scanned (plain : ∀ c ∈ text, c ≠ '_') (found : scan digit text = some (digits,rest)) :
    ∃ front, text = front ++ rest ∧ (∀ c ∈ front, (digit c).isSome) ∧
      digits.length = front.length := by
  fun_induction scan digit text generalizing digits rest with
  | case1 => cases found
  | case2 c more none => cases found
  | case3 c d value =>
    cases found
    exact ⟨[c],rfl,by simp [value],rfl⟩
  | case4 c d value next more underscore =>
    exact absurd (eq_of_beq underscore) (plain next (by simp))
  | case5 c d value next more other e following ih =>
    obtain ⟨⟨ds,tail⟩,inner,same⟩ := Option.map_eq_some_iff.mp found
    cases same
    obtain ⟨front,split,all,length⟩ := ih (fun x member => plain x (by simp [member])) inner
    refine ⟨c :: front,by rw [split]; rfl,?_,by simp [length]⟩
    intro x member
    rcases List.mem_cons.mp member with rfl | inside
    · simp [value]
    · exact all x inside
  | case6 c d value next more other none =>
    cases found
    exact ⟨[c],rfl,by simp [value],rfl⟩

theorem scanAll (filled : text ≠ []) (plain : ∀ c ∈ text, c ≠ '_')
    (all : ∀ c ∈ text, (digit c).isSome) :
    scan digit text = some (text.map fun c => (digit c).getD 0,[]) := by
  induction text with
  | nil => exact absurd rfl filled
  | cons c more ih =>
    obtain ⟨d,value⟩ := Option.isSome_iff_exists.mp (all c (by simp))
    cases more with
    | nil => simp [scan,value]
    | cons next more =>
      obtain ⟨e,following⟩ := Option.isSome_iff_exists.mp (all next (by simp))
      have other : (next == ('_' : CodePoint)) = false := by simpa using plain next (by simp)
      have inner := ih (by simp) (fun x member => plain x (List.mem_cons_of_mem _ member))
        (fun x member => all x (List.mem_cons_of_mem _ member))
      simp only [scan,value,other,following,inner,Option.map_some]
      simp [value]

theorem bodyOfDigits (digits : ∀ c ∈ text, isDigit c = true) :
    afterSign (text.dropWhile isMargin) = (false,text) := by
  cases text with
  | nil => rfl
  | cons c rest =>
    have first := digits c (by simp)
    obtain ⟨_,minus,plus⟩ := digitNoMark first
    rw [List.dropWhile_cons_of_neg (by simp [digitNoMargin first])]
    simp [afterSign,minus,plus]

theorem readDecimals (filled : text ≠ []) (decimal : ∀ c ∈ text, isDecimal c = true)
    (short : text.length ≤ maxDigits) :
    readDecimal text = .ok (value 10 (text.map fun c => (decimalValue c).getD 0)) := by
  have digits : ∀ c ∈ text, isDigit c = true := fun c member => decimalDigit (decimal c member)
  have plain : ∀ c ∈ text, c ≠ '_' := fun c member => (digitNoMark (digits c member)).1
  simp only [readDecimal,bodyOfDigits digits,scanAll filled plain decimal,List.length_map,gt_iff_lt,
    Nat.not_lt.mpr short,if_false,List.all_nil,if_true]
  rfl

theorem readDigits (filled : text ≠ []) (digits : ∀ c ∈ text, isDigit c = true) :
    (∃ n, readDecimal text = .ok n) ↔
      (∀ c ∈ text, isDecimal c = true) ∧ text.length ≤ maxDigits := by
  have plain : ∀ c ∈ text, c ≠ '_' := fun c member => (digitNoMark (digits c member)).1
  constructor
  · intro ⟨n,read⟩
    simp only [readDecimal,bodyOfDigits digits] at read
    split at read
    · cases read
    · rename_i values rest found
      obtain ⟨front,split,decimal,length⟩ := scanned plain found
      split at read
      · cases read
      · rename_i short
        split at read
        · rename_i margin
          -- nothing is left behind the scanned digits: it would be a margin and a digit at once
          have none : rest = [] := by
            refine List.eq_nil_iff_forall_not_mem.mpr fun c member => ?_
            have blank := List.all_eq_true.mp margin c member
            simp [digitNoMargin (digits c (by simp [split,member]))] at blank
          rw [none,List.append_nil] at split
          rw [split]
          exact ⟨decimal,by omega⟩
        · cases read
  · intro ⟨decimal,short⟩
    exact ⟨_,readDecimals filled decimal short⟩

theorem hexPlain {c : CodePoint} (hex : (hexValue c).isSome) :
    isAsciiMargin c = false ∧ c ≠ '_' ∧ c ≠ '-' ∧ c ≠ '+' ∧ c ≠ 'x' ∧ c ≠ 'X' := by
  refine ⟨?_,?_,?_,?_,?_,?_⟩
  case refine_1 =>
    cases margin : isAsciiMargin c with
    | false => rfl
    | true =>
      have low : c.val ≤ 0x20 := by
        simp only [isAsciiMargin,Bool.or_eq_true,beq_iff_eq,Bool.and_eq_true,decide_eq_true_eq]
          at margin
        obtain rfl | control := margin
        · decide
        · omega
      simp only [hexValue,isAsciiDigit,Bool.and_eq_true,decide_eq_true_eq] at hex
      split at hex
      · omega
      · split at hex
        · omega
        · split at hex
          · omega
          · cases hex
  all_goals
    rintro rfl
    revert hex
    decide

theorem readHexDigits (filled : text ≠ []) (hex : ∀ c ∈ text, (hexValue c).isSome) :
    readHex text = .ok (value 16 (text.map fun c => (hexValue c).getD 0)) := by
  have unsigned : afterSign (text.dropWhile isAsciiMargin) = (false,text) := by
    cases text with
    | nil => rfl
    | cons c rest =>
      obtain ⟨margin,_,minus,plus,_⟩ := hexPlain (hex c (by simp))
      rw [List.dropWhile_cons_of_neg (by simp [margin])]
      simp [afterSign,minus,plus]
  have unmarked : afterHexMark text = text := by
    unfold afterHexMark
    split
    · rename_i a b rest
      obtain ⟨_,_,_,_,small,capital⟩ := hexPlain (hex b (by simp))
      simp [small,capital]
    · rfl
  have plain : ∀ c ∈ text, c ≠ '_' := fun c member => (hexPlain (hex c member)).2.1
  simp only [readHex,unsigned,unmarked,scanAll filled plain hex,List.all_nil,if_true]
  rfl

end Numeral
end BotGateway
