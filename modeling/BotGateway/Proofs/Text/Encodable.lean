import BotGateway.Json.Basic
import BotGateway.Proofs.Number.Numeral
import BotGateway.Text.Utf8
import Mathlib.Data.List.TakeWhile

/-! Texts that can be encoded are those without surrogates. Quoting neither brings in nor hides a
surrogate. -/
namespace BotGateway

def Utf8.Encodable (t : Text) : Prop := ∀ c ∈ t, isSurrogate c = false

instance (t : Text) : Decidable (Utf8.Encodable t) :=
  List.decidableBAll (fun c => Utf8.isSurrogate c = false) t

namespace Utf8

theorem encodableNil : Encodable [] := by
  intro c member
  cases member

@[simp] theorem encodableCons (c : CodePoint) (t : Text) :
    Encodable (c :: t) ↔ isSurrogate c = false ∧ Encodable t := by
  simp [Encodable]

@[simp] theorem encodableAppend (s t : Text) : Encodable (s ++ t) ↔ Encodable s ∧ Encodable t := by
  simp [Encodable,or_imp,forall_and]

theorem encodableFlatMap {α : Type} (f : α → Text) (items : List α) :
    Encodable (items.flatMap f) ↔ ∀ item ∈ items, Encodable (f item) := by
  induction items with
  | nil => simp [encodableNil]
  | cons item rest ih => simp [ih]

theorem loneSurrogatesNone (t : Text) : loneSurrogates t = none ↔ Encodable t := by
  unfold loneSurrogates
  constructor
  · intro none c member
    split at none
    · rename_i dropped
      simpa using List.dropWhile_eq_nil_iff.mp dropped c member
    · cases none
  · intro encodable
    have dropped : t.dropWhile (!isSurrogate ·) = [] :=
      List.dropWhile_eq_nil_iff.mpr fun c member => by simp [encodable c member]
    rw [dropped]

theorem encodeSome {t : Text} {raw : Bytes} : encode t = .ok raw ↔ Encodable t ∧ raw = bytesOf t := by
  rw [← loneSurrogatesNone,encode]
  cases loneSurrogates t with
  | none => simp [eq_comm]
  | some found => simp

theorem encodeEncodable {t : Text} (encodable : Encodable t) : encode t = .ok (bytesOf t) :=
  encodeSome.mpr ⟨encodable,rfl⟩

theorem encodedEncodable {t : Text} {raw : Bytes} (encoded : encode t = .ok raw) : Encodable t :=
  (encodeSome.mp encoded).1

theorem charEncodable (c : Char) : isSurrogate (CodePoint.ofChar c) = false := by
  have bound : c.toNat < 0x110000 ∧ ¬(0xD800 ≤ c.toNat ∧ c.toNat < 0xE000) := by
    have := c.valid
    simp only [UInt32.isValidChar,Nat.isValidChar] at this
    simp only [Char.toNat]
    omega
  have value : (CodePoint.ofChar c).val = c.toNat := Nat.mod_eq_of_lt bound.1
  simp only [isSurrogate,value,Bool.and_eq_false_iff,decide_eq_false_iff_not]
  omega

@[simp] theorem stringEncodable (s : String) : Encodable (Text.ofString s) := by
  intro c member
  obtain ⟨char,_,rfl⟩ := List.mem_map.mp member
  exact charEncodable char

theorem lowEncodable {c : CodePoint} (low : c.val < 0x80) : isSurrogate c = false := by
  simp only [isSurrogate,Bool.and_eq_false_iff,decide_eq_false_iff_not]
  omega

end Utf8

namespace Quoted

theorem hexDigitEncodable {n : Nat} (digit : n < 16) : Utf8.isSurrogate (hexDigit n) = false := by
  refine Utf8.lowEncodable ?_
  simp only [hexDigit,CodePoint.ofNat]
  split <;> omega

theorem hexEncodable (width n : Nat) : Utf8.Encodable (hex width n) := by
  induction width generalizing n with
  | zero => exact Utf8.encodableNil
  | succ width ih =>
    have digit : Utf8.isSurrogate (hexDigit (n % 16)) = false :=
      hexDigitEncodable (Nat.mod_lt n (by decide))
    simpa [hex,ih,digit] using Utf8.encodableNil

end Quoted

namespace Json
open Utf8

theorem controlEncodable {c : CodePoint} (control : c.val < 0x20) : Encodable (escapeOne c) := by
  have hidden : ¬0x20 ≤ c.val := by omega
  simp only [escapeOne,if_neg hidden]
  repeat' split
  all_goals simp [Quoted.hexEncodable]

theorem escapeEncodable (c : CodePoint) : Encodable (escapeOne c) ↔ isSurrogate c = false := by
  by_cases control : c.val < 0x20
  · have kept : isSurrogate c = false := lowEncodable (by omega)
    simp [controlEncodable control,kept]
  · by_cases mark : c = '"'
    · simp [escapeOne,mark,charEncodable]
    · by_cases slash : c = '\\'
      · have escaped : escapeOne '\\' = "\\\\" := rfl
        simp [slash,escaped,charEncodable]
      · have plain : escapeOne c = [c] := by
          have shown : 0x20 ≤ c.val := by omega
          simp [escapeOne,mark,slash,shown]
        rw [plain]
        simp [encodableNil]

theorem quoteEncodable (t : Text) : Encodable (quote t) ↔ Encodable t := by
  simp only [quote,encodableAppend,stringEncodable,encodableFlatMap,escapeEncodable,true_and,and_true]
  rfl

end Json
end BotGateway
