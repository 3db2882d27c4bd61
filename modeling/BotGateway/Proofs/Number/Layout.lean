import BotGateway.Number.Digits
import BotGateway.Proofs.Json.Written
import Mathlib.Data.Nat.Digits.Defs

/-! How numbers are laid out: no layout puts a colon into a number, and padding stretches a numeral to
its width and no further. -/
namespace BotGateway

def colon : CodePoint := ':'

namespace Numeral

theorem digitNoColon {t : Text} (digits : ∀ c ∈ t, Class.isAsciiDigit c = true) : colon ∉ t := by
  intro member
  have digit := digits colon member
  revert digit
  decide

theorem noColon (n : Nat) : colon ∉ ofNat n := digitNoColon (Json.digitsNumeral n).2

theorem noColonInt (n : Int) : colon ∉ ofInt n := by
  cases n with
  | ofNat n => exact noColon n
  | negSucc n =>
    rw [ofInt,List.mem_append]
    rintro (sign | digits)
    · revert sign
      decide
    · exact noColon _ digits

end Numeral

namespace Binary64

theorem noColonPadded (width n : Nat) : colon ∉ paddedNat width n := by
  rw [paddedNat,List.mem_append]
  rintro (zeros | digits)
  · have zero := (List.mem_replicate.mp zeros).2
    revert zero
    decide
  · exact Numeral.noColon n digits

theorem paddedLength {width n : Nat} (some : 0 < width) (small : n < 10 ^ width) :
    (paddedNat width n).length = width := by
  have short := Nat.toDigits_length 10 n width some small
  rw [paddedNat,Numeral.ofNat,List.length_append,List.length_replicate,List.length_map]
  omega

def Small (digits : List Nat) : Prop := ∀ d ∈ digits, d < 10

theorem smallZeros (n : Nat) : Small (List.replicate n 0) := by
  intro d member
  rw [(List.mem_replicate.mp member).2]
  decide

theorem smallDigits (n : Nat) : Small (digitsOf n) := by
  intro d member
  obtain ⟨c,among,rfl⟩ := List.mem_map.mp member
  have digit := Nat.isDigit_of_mem_toDigits (by decide) (by decide) among
  simp only [Char.isDigit,Bool.and_eq_true,decide_eq_true_eq] at digit
  have most : c.toNat ≤ 57 := UInt32.le_iff_toNat_le.mp digit.2
  omega

theorem smallTrimmed {digits : List Nat} (small : Small digits) (drop : Nat → Bool) :
    Small (Text.trimEnd drop digits) := by
  intro d member
  have kept := (List.dropWhile_suffix drop).subset (List.mem_reverse.mp member)
  exact small d (List.mem_reverse.mp kept)

theorem smallShortest (mantissa : Nat) (exponent : Int) :
    Small (shortest mantissa exponent).digits := by
  have zero : Small [0] := smallZeros 1
  rw [shortest]
  split
  · exact zero
  · dsimp only
    split
    · exact zero
    · dsimp only
      split
      · exact zero
      · exact smallTrimmed (smallDigits _) _

theorem noColonDigits {digits : List Nat} (small : Small digits) : colon ∉ digitText digits := by
  refine Numeral.digitNoColon fun c member => ?_
  obtain ⟨d,among,rfl⟩ := List.mem_map.mp member
  have below := small d among
  have value : (CodePoint.ofNat (48 + d)).val = 48 + d := Nat.mod_eq_of_lt (by omega)
  rw [Class.isAsciiDigit,value]
  simp only [Bool.and_eq_true,decide_eq_true_eq]
  omega

theorem noColonPositional {digits : List Nat} (small : Small digits) (order : Int) :
    colon ∉ (positional digits order).1 ∧ colon ∉ (positional digits order).2 := by
  cases order with
  | negSucc n =>
    have zero : colon ∉ ("0" : Text) := by decide
    refine ⟨zero,noColonDigits fun d member => ?_⟩
    rcases List.mem_append.mp member with zeros | among
    · exact smallZeros n d zeros
    · exact small d among
  | ofNat n =>
    refine ⟨noColonDigits fun d member => ?_,noColonDigits fun d member => ?_⟩
    · rcases List.mem_append.mp member with taken | zeros
      · exact small d ((List.take_subset _ _) taken)
      · exact smallZeros _ d zeros
    · exact small d ((List.drop_subset _ _) member)

theorem noColonExponent (order : Int) : colon ∉ exponentText 'e' order := by
  have mark : colon ∉ [('e' : CodePoint)] ∧ colon ∉ ("-" : Text) ∧ colon ∉ ("+" : Text) := by decide
  rw [exponentText,List.mem_append,List.mem_append]
  refine not_or_intro (not_or_intro mark.1 ?_) (noColonPadded 2 order.natAbs)
  split
  · exact mark.2.1
  · exact mark.2.2

theorem noColonMagnitude (layout : Layout) {value : Digits} (small : Small value.digits) :
    colon ∉ layout.magnitude value := by
  obtain ⟨whole,fraction⟩ := noColonPositional small value.order
  have point : colon ∉ ("." : Text) ∧ colon ∉ (".0" : Text) ∧ colon ≠ '.' := by decide
  obtain ⟨dot,zero,mark⟩ := point
  rw [Layout.magnitude]
  split
  · dsimp only
    split
    · split
      · simp [whole,zero]
      · exact whole
    · simp [whole,fraction,dot]
  · have first : colon ∉ digitText (value.digits.take 1) :=
      noColonDigits fun d member => small d ((List.take_subset _ _) member)
    have rest : colon ∉ digitText (value.digits.drop 1) :=
      noColonDigits fun d member => small d ((List.drop_subset _ _) member)
    rw [List.mem_append,List.mem_append]
    refine not_or_intro (not_or_intro first ?_) (noColonExponent value.order)
    split
    · exact List.not_mem_nil
    · exact List.not_mem_cons_of_ne_of_not_mem mark rest

theorem noColonRendered {layout : Layout} (nan : colon ∉ layout.nan)
    (infinity : colon ∉ layout.infinity) (x : Binary64) : colon ∉ layout.render x := by
  have sign (negative : Bool) : colon ∉ (if negative then "-" else "" : Text) := by
    cases negative <;> decide
  cases x with
  | nan => exact nan
  | infinite negative =>
    rw [Layout.render,List.mem_append]
    exact not_or_intro (sign negative) infinity
  | finite negative mantissa exponent =>
    rw [Layout.render,List.mem_append]
    exact not_or_intro (sign negative) (noColonMagnitude layout (smallShortest mantissa exponent))

end Binary64
end BotGateway
