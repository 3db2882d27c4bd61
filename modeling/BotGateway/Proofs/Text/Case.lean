import BotGateway.Text.Case

/-! Letter case of ASCII text: capitals and small letters lead to one another, and no character from
outside takes part. -/
namespace BotGateway.Case

def Ascii (t : Text) : Prop := ∀ c ∈ t, c.val < 0x80

instance (t : Text) : Decidable (Ascii t) := List.decidableBAll (fun c : CodePoint => c.val < 0x80) t

theorem capitalsForeign {c : CodePoint} (ascii : c.val < 0x80) :
    foreignCapitals.find? (·.1 == c.val) = none := by
  rw [List.find?_eq_none]
  have beyond : ∀ entry ∈ foreignCapitals, 0x80 ≤ entry.1 := by decide
  intro entry member same
  have reached : entry.1 = c.val := by simpa using same
  have := beyond entry member
  omega

theorem upperAscii {t : Text} (ascii : Ascii t) : upper t = t.map asciiUpper := by
  induction t with
  | nil => rfl
  | cons c t ih =>
    obtain ⟨first,others⟩ := List.forall_mem_cons.mp ascii
    have one : upperOne c = [asciiUpper c] := by rw [upperOne,capitalsForeign first]
    have rest : upper t = t.map asciiUpper := ih others
    rw [upper] at rest ⊢
    rw [List.flatMap_cons,one,rest]
    rfl

theorem lowerUpper (c : CodePoint) : asciiLower (asciiUpper c) = asciiLower c := by
  have bound := c.isLt
  by_cases small : 0x61 ≤ c.val ∧ c.val ≤ 0x7A
  · have capital : (CodePoint.ofNat (c.val - 32)).val = c.val - 32 := Nat.mod_eq_of_lt (by omega)
    have kept : asciiLower c = c := by
      rw [asciiLower,if_neg]
      simp only [Bool.and_eq_true,decide_eq_true_eq]
      omega
    rw [asciiUpper,if_pos (by simpa using small),kept,asciiLower,capital,if_pos]
    · refine Fin.ext ?_
      show (c.val - 32 + 32) % 0x110000 = c.val
      omega
    · simp only [Bool.and_eq_true,decide_eq_true_eq]
      omega
  · rw [asciiUpper,if_neg (by simpa using small)]

theorem upperLower (c : CodePoint) : asciiUpper (asciiLower c) = asciiUpper c := by
  have bound := c.isLt
  by_cases capital : 0x41 ≤ c.val ∧ c.val ≤ 0x5A
  · have small : (CodePoint.ofNat (c.val + 32)).val = c.val + 32 := Nat.mod_eq_of_lt (by omega)
    have kept : asciiUpper c = c := by
      rw [asciiUpper,if_neg]
      simp only [Bool.and_eq_true,decide_eq_true_eq]
      omega
    rw [asciiLower,if_pos (by simpa using capital),kept,asciiUpper,small,if_pos]
    · refine Fin.ext ?_
      show (c.val + 32 - 32) % 0x110000 = c.val
      omega
    · simp only [Bool.and_eq_true,decide_eq_true_eq]
      omega
  · rw [asciiLower,if_neg (by simpa using capital)]

theorem alikeEither (s t : Text) :
    s.map asciiUpper = t.map asciiUpper ↔ s.map asciiLower = t.map asciiLower := by
  have lowered (u : Text) : (u.map asciiUpper).map asciiLower = u.map asciiLower := by
    rw [List.map_map]
    exact List.map_congr_left fun c _ => lowerUpper c
  have raised (u : Text) : (u.map asciiLower).map asciiUpper = u.map asciiUpper := by
    rw [List.map_map]
    exact List.map_congr_left fun c _ => upperLower c
  constructor
  · intro same
    rw [← lowered s,same,lowered t]
  · intro same
    rw [← raised s,same,raised t]

end BotGateway.Case
