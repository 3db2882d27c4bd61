import BotGateway.Proofs.Text.Encodable
import Mathlib.Tactic.Linarith

/-! UTF-8 read back. What was written without surrogates is read as it was, with or without
surrogates allowed, so no two such texts have the same bytes. What is read strictly has none. -/
namespace BotGateway.Utf8

variable {surrogates : Bool} {rest : Bytes}

theorem tailByteNat (n : Nat) : (tailByte n).toNat = 0x80 + n % 64 := by
  have small : 0x80 + n % 64 < 256 := by omega
  simp only [tailByte,UInt8.toNat_ofNat']
  exact Nat.mod_eq_of_lt small

theorem leadNat {n : Nat} (small : n < 256) : (UInt8.ofNat n).toNat = n := by
  simp only [UInt8.toNat_ofNat']
  exact Nat.mod_eq_of_lt small

theorem wholeRead {b : UInt8} {c : CodePoint} (started : start surrogates b = .whole c) :
    decodeFrom surrogates none (b :: rest) = (decodeFrom surrogates none rest).map (c :: ·) := by
  rw [decodeFrom,started]

theorem opensRead {b : UInt8} {sequence : Open} (started : start surrogates b = .opens sequence) :
    decodeFrom surrogates none (b :: rest) = decodeFrom surrogates (some sequence) rest := by
  rw [decodeFrom,started]

theorem tailRead {missing value n : Nat} {low high : UInt8} (above : low.toNat ≤ 0x80 + n % 64)
    (below : 0x80 + n % 64 ≤ high.toNat) :
    decodeFrom surrogates (some ⟨missing,value,low,high⟩) (tailByte n :: rest) =
      if missing ≤ 1 then
        (decodeFrom surrogates none rest).map (CodePoint.ofNat (value * 64 + n % 64) :: ·)
      else decodeFrom surrogates (some ⟨missing - 1,value * 64 + n % 64,0x80,0xBF⟩) rest := by
  have fits : (decide (low ≤ tailByte n) && decide (tailByte n ≤ high)) = true := by
    simp only [UInt8.le_iff_toNat_le,tailByteNat,Bool.and_eq_true,decide_eq_true_eq]
    exact ⟨above,below⟩
  have six : (tailByte n).toNat % 64 = n % 64 := by
    rw [tailByteNat]
    omega
  rw [decodeFrom,if_pos fits,six]

theorem tailReadPlain {missing value n : Nat} :
    decodeFrom surrogates (some ⟨missing,value,0x80,0xBF⟩) (tailByte n :: rest) =
      if missing ≤ 1 then
        (decodeFrom surrogates none rest).map (CodePoint.ofNat (value * 64 + n % 64) :: ·)
      else decodeFrom surrogates (some ⟨missing - 1,value * 64 + n % 64,0x80,0xBF⟩) rest := by
  refine tailRead ?_ ?_
  · show 0x80 ≤ _
    omega
  · show _ ≤ 0xBF
    omega

theorem startTwo {n : Nat} (above : 0x80 ≤ n) (below : n < 0x800) :
    start surrogates (UInt8.ofNat (0xC0 + n / 64)) = .opens ⟨1,n / 64,0x80,0xBF⟩ := by
  have lead : (UInt8.ofNat (0xC0 + n / 64)).toNat = 0xC0 + n / 64 := leadNat (by omega)
  simp only [start,lead]
  rw [if_neg (by omega),if_neg (by omega),if_pos (by omega)]
  simp

variable (surrogates) in
theorem startThree {n : Nat} (above : 0x800 ≤ n) (below : n < 0x10000)
    (plain : n < 0xD800 ∨ 0xE000 ≤ n) :
    ∃ low high, start surrogates (UInt8.ofNat (0xE0 + n / 4096)) = .opens ⟨2,n / 4096,low,high⟩ ∧
      low.toNat ≤ 0x80 + n / 64 % 64 ∧ 0x80 + n / 64 % 64 ≤ high.toNat := by
  have lead : (UInt8.ofNat (0xE0 + n / 4096)).toNat = 0xE0 + n / 4096 := leadNat (by omega)
  simp only [start,lead]
  rw [if_neg (by omega),if_neg (by omega),if_neg (by omega)]
  by_cases first : n / 4096 = 0
  · rw [if_pos (by omega),first]
    refine ⟨_,_,rfl,?_,?_⟩
    · show 0xA0 ≤ _
      omega
    · show _ ≤ 0xBF
      omega
  · rw [if_neg (by omega)]
    by_cases before : n / 4096 = 0xD
    · rw [if_pos (by omega),before]
      refine ⟨_,_,rfl,?_,?_⟩
      · show 0x80 ≤ _
        omega
      · cases surrogates
        · show _ ≤ 0x9F
          omega
        · show _ ≤ 0xBF
          omega
    · rw [if_neg (by omega),if_pos (by omega)]
      refine ⟨0x80,0xBF,by simp,?_,?_⟩
      · show 0x80 ≤ _
        omega
      · show _ ≤ 0xBF
        omega

variable (surrogates) in
theorem startFour {n : Nat} (above : 0x10000 ≤ n) (below : n < 0x110000) :
    ∃ low high, start surrogates (UInt8.ofNat (0xF0 + n / 262144)) =
        .opens ⟨3,n / 262144,low,high⟩ ∧
      low.toNat ≤ 0x80 + n / 4096 % 64 ∧ 0x80 + n / 4096 % 64 ≤ high.toNat := by
  have lead : (UInt8.ofNat (0xF0 + n / 262144)).toNat = 0xF0 + n / 262144 := leadNat (by omega)
  simp only [start,lead]
  rw [if_neg (by omega),if_neg (by omega),if_neg (by omega),if_neg (by omega),if_neg (by omega),
    if_neg (by omega)]
  by_cases first : n / 262144 = 0
  · rw [if_pos (by omega),first]
    refine ⟨_,_,rfl,?_,?_⟩
    · show 0x90 ≤ _
      omega
    · show _ ≤ 0xBF
      omega
  · rw [if_neg (by omega)]
    by_cases last : n / 262144 = 4
    · rw [if_neg (by omega),if_pos (by omega),last]
      refine ⟨_,_,rfl,?_,?_⟩
      · show 0x80 ≤ _
        omega
      · show _ ≤ 0x8F
        omega
    · rw [if_pos (by omega)]
      refine ⟨0x80,0xBF,by simp,?_,?_⟩
      · show 0x80 ≤ _
        omega
      · show _ ≤ 0xBF
        omega

theorem ofNatVal (c : CodePoint) {n : Nat} (same : n = c.val) : CodePoint.ofNat n = c := by
  subst same
  exact Fin.ext (Nat.mod_eq_of_lt c.isLt)

theorem decodeOne {c : CodePoint} (plain : isSurrogate c = false) :
    decodeFrom surrogates none (encodeOne c ++ rest) =
      (decodeFrom surrogates none rest).map (c :: ·) := by
  have bound := c.isLt
  have outside : c.val < 0xD800 ∨ 0xE000 ≤ c.val := by
    simp only [isSurrogate,Bool.and_eq_false_iff,decide_eq_false_iff_not] at plain
    omega
  by_cases one : c.val < 0x80
  · have lead : (UInt8.ofNat c.val).toNat = c.val := leadNat (by omega)
    have started : start surrogates (UInt8.ofNat c.val) = .whole c := by
      simp only [start,lead]
      rw [if_pos one,ofNatVal c rfl]
    simp only [encodeOne,if_pos one,List.cons_append,List.nil_append]
    exact wholeRead started
  · by_cases two : c.val < 0x800
    · simp only [encodeOne,if_neg one,if_pos two,List.cons_append,List.nil_append]
      rw [opensRead (startTwo (Nat.le_of_not_lt one) two),tailReadPlain,if_pos (Nat.le_refl 1),ofNatVal c (by omega)]
    · by_cases three : c.val < 0x10000
      · obtain ⟨low,high,started,least,greatest⟩ :=
          startThree surrogates (Nat.le_of_not_lt two) three outside
        simp only [encodeOne,if_neg one,if_neg two,if_pos three,List.cons_append,List.nil_append]
        rw [opensRead started,tailRead least greatest,if_neg (by omega),tailReadPlain,if_pos (by omega),
          ofNatVal c (by omega)]
      · obtain ⟨low,high,started,least,greatest⟩ :=
          startFour surrogates (Nat.le_of_not_lt three) bound
        simp only [encodeOne,if_neg one,if_neg two,if_neg three,List.cons_append,List.nil_append]
        rw [opensRead started,tailRead least greatest,if_neg (by omega),tailReadPlain,if_neg (by omega),tailReadPlain,
          if_pos (by omega),ofNatVal c (by omega)]

theorem decodeEncodable {t : Text} (encodable : Encodable t) :
    decodeFrom surrogates none (bytesOf t ++ rest) =
      (decodeFrom surrogates none rest).map (t ++ ·) := by
  induction t with
  | nil => simp [bytesOf]
  | cons c t ih =>
    obtain ⟨plain,others⟩ := (encodableCons c t).mp encodable
    have opened : bytesOf (c :: t) ++ rest = encodeOne c ++ (bytesOf t ++ rest) := by simp [bytesOf]
    rw [opened,decodeOne plain,ih others,Option.map_map]
    rfl

theorem decodeBytesOf {t : Text} (encodable : Encodable t) :
    decodeFrom surrogates none (bytesOf t) = some t := by
  have read : decodeFrom surrogates none (bytesOf t ++ []) = _ := decodeEncodable encodable
  simpa [decodeFrom] using read

theorem decodeAppend {state : Option Open} {raw : Bytes} {t : Text}
    (read : decodeFrom surrogates state raw = some t) :
    decodeFrom surrogates state (raw ++ rest) = (decodeFrom surrogates none rest).map (t ++ ·) := by
  -- what was read to its end leaves no sequence open for the rest
  induction raw generalizing state t with
  | nil =>
    cases state with
    | none =>
      simp only [decodeFrom,Option.some.injEq] at read
      subst read
      simp
    | some sequence => simp [decodeFrom] at read
  | cons b raw ih =>
    cases state with
    | none =>
      cases started : start surrogates b with
      | whole c =>
        rw [wholeRead started,Option.map_eq_some_iff] at read
        obtain ⟨t,read,rfl⟩ := read
        rw [List.cons_append,wholeRead started,ih read,Option.map_map]
        rfl
      | opens sequence =>
        rw [opensRead started] at read
        rw [List.cons_append,opensRead started,ih read]
      | invalid => simp [decodeFrom,started] at read
    | some sequence =>
      obtain ⟨missing,value,low,high⟩ := sequence
      rw [decodeFrom] at read
      rw [List.cons_append,decodeFrom]
      split at read
      · rename_i fits
        rw [if_pos fits]
        dsimp only at read ⊢
        split at read
        · rename_i last
          rw [Option.map_eq_some_iff] at read
          obtain ⟨t,read,rfl⟩ := read
          rw [if_pos last,ih read,Option.map_map]
          rfl
        · rename_i more
          rw [if_neg more,ih read]
      · cases read

theorem bytesOfInjective {s t : Text} (left : Encodable s) (right : Encodable t)
    (same : bytesOf s = bytesOf t) : s = t := by
  have read : decode? (bytesOf s) = decode? (bytesOf t) := by rw [same]
  rw [decode?,decode?,decodeBytesOf left,decodeBytesOf right] at read
  exact Option.some.inj read

end BotGateway.Utf8
