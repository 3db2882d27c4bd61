import BotGateway.Number.Numeral

/-! Decimal numerals as parts of names: different numbers have different numerals, and no numeral
holds an underscore. -/
namespace BotGateway

theorem CodePoint.ofCharInjective {a b : Char} (same : CodePoint.ofChar a = CodePoint.ofChar b) :
    a = b := by
  have bound (c : Char) : c.toNat < 0x110000 := by
    have := c.valid
    simp only [UInt32.isValidChar,Nat.isValidChar] at this
    simp only [Char.toNat]
    omega
  have values := congrArg Fin.val same
  simp only [CodePoint.ofChar,CodePoint.ofNat,Nat.mod_eq_of_lt (bound a),
    Nat.mod_eq_of_lt (bound b)] at values
  exact Char.toNat_inj.mp values

namespace Numeral

theorem ofNatInjective {m n : Nat} (same : ofNat m = ofNat n) : m = n := by
  have digits : Nat.toDigits 10 m = Nat.toDigits 10 n :=
    (List.map_inj_right fun _ _ => CodePoint.ofCharInjective).mp same
  have read := congrArg (Nat.ofDigitChars 10 · 0) digits
  simpa only [Nat.ofDigitChars_ten_toDigits] using read

theorem noUnderscore (n : Nat) : ('_' : CodePoint) ∉ ofNat n := by
  intro member
  obtain ⟨c,digit,same⟩ := List.mem_map.mp member
  have underscore : c = '_' := CodePoint.ofCharInjective same
  exact Nat.underscore_not_in_toDigits (underscore ▸ digit)

end Numeral
end BotGateway
