import BotGateway.Client.Token
import BotGateway.Journal.Redaction
import BotGateway.Journal.Timestamp
import BotGateway.Proofs.Except
import BotGateway.Proofs.Json.Texts
import Mathlib.Data.List.Infix

/-! What a valid token looks like: no mark of a document's notation belongs to it, the mask can only
meet it from behind, and its secret is too long for a point of time. -/
namespace BotGateway
open Text (Clear)

namespace Token
variable {token number secret ending : Text}

structure Parts (token number secret ending : Text) : Prop where
  whole : token = number ++ colon :: (secret ++ ending)
  numbered : number ≠ []
  decimal : ∀ c ∈ number, Class.isDecimal c = true
  length : secret.length = secretLength
  hidden : ∀ c ∈ secret, isSecretPart c = true
  ending : ∀ c ∈ ending, c = '\n'

theorem withoutEnding (token : Text) :
    ∃ ending, token = withoutLineEnd token ++ ending ∧ ∀ c ∈ ending, c = '\n' := by
  rw [withoutLineEnd]
  split
  · rename_i c last
    split
    · rename_i same
      exact ⟨[c],(List.dropLast_append_getLast? c last).symm,by simpa using same⟩
    · exact ⟨[],(List.append_nil token).symm,nofun⟩
  · exact ⟨[],(List.append_nil token).symm,nofun⟩

theorem formedParts (formed : isWellFormed token = true) :
    ∃ number secret, Parts token number secret [] := by
  rw [isWellFormed] at formed
  split at formed
  · cases formed
  · rename_i number secret split
    simp only [Bool.and_eq_true,Bool.not_eq_true',List.isEmpty_eq_false_iff,List.all_eq_true,
      beq_iff_eq] at formed
    obtain ⟨⟨⟨numbered,decimal⟩,length⟩,hidden⟩ := formed
    have whole := Text.splitFirstWhole split
    rw [← List.append_nil secret] at whole
    exact ⟨number,secret,whole,numbered,decimal,length,hidden,nofun⟩

theorem partsOf (valid : isValid token = true) :
    ∃ number secret ending, Parts token number secret ending := by
  obtain ⟨ending,whole,lineEnd⟩ := withoutEnding token
  obtain ⟨number,secret,parts⟩ := formedParts valid
  rw [parts.whole,List.append_nil,List.append_assoc,List.cons_append] at whole
  exact ⟨number,secret,ending,whole,parts.numbered,parts.decimal,parts.length,parts.hidden,lineEnd⟩

theorem marksForeign : (Json.marks.all fun c => !Class.isDecimal c && c != colon &&
    !isSecretPart c && c != '\n') = true := by decide +kernel

theorem maskNoDecimal : (mask.all fun c => !Class.isDecimal c) = true := by decide +kernel

theorem Parts.word (parts : Parts token number secret ending) : Json.Word token where
  colon := by
    rw [parts.whole]
    exact List.mem_append_right _ List.mem_cons_self
  longer := by
    rw [parts.whole]
    simp only [List.length_append,List.length_cons,parts.length,secretLength]
    omega
  unmarked := by
    intro c mark member
    have foreign := List.all_eq_true.mp marksForeign c mark
    simp only [Bool.and_eq_true,Bool.not_eq_true',bne_iff_ne] at foreign
    obtain ⟨⟨⟨decimal,other⟩,secret⟩,lineEnd⟩ := foreign
    rw [parts.whole,List.mem_append,List.mem_cons,List.mem_append] at member
    rcases member with inNumber | isColon | inSecret | inEnding
    · exact Bool.false_ne_true (decimal.symm.trans (parts.decimal c inNumber))
    · exact other isColon
    · exact Bool.false_ne_true (secret.symm.trans (parts.hidden c inSecret))
    · exact lineEnd (parts.ending c inEnding)

/-- The mask stands in the token nowhere, and no beginning of it ends the token: where the token is
masked, what follows cannot make up the token again. -/
structure Apart (token : Text) : Prop where
  outside : ¬ mask <:+: token
  ends : ∀ piece, piece <:+ token → piece <+: mask → piece = []

instance (token : Text) : Decidable (Apart token) :=
  decidable_of_iff (¬ mask <:+: token ∧ ∀ piece ∈ mask.inits, piece <:+ token → piece = []) <| by
    simp only [List.mem_inits]
    exact ⟨fun ⟨outside,ends⟩ => ⟨outside,fun piece last first => ends piece first last⟩,
      fun apart => ⟨apart.outside,fun piece first last => apart.ends piece last first⟩⟩

theorem Parts.clear (parts : Parts token number secret ending) (apart : Apart token) :
    Clear token mask where
  inside := parts.word.apart (by decide)
  outside := apart.outside
  ends := apart.ends
  begins := by
    intro piece begins ends
    cases piece with
    | nil => rfl
    | cons c rest =>
      obtain ⟨first,others,same⟩ := List.exists_cons_of_ne_nil parts.numbered
      have whole := parts.whole
      rw [same,List.cons_append] at whole
      obtain ⟨rfl,_⟩ := List.cons_prefix_cons.mp (whole ▸ begins)
      have decimal := parts.decimal c (same ▸ List.mem_cons_self)
      have letter := List.all_eq_true.mp maskNoDecimal c (ends.subset List.mem_cons_self)
      rw [decimal] at letter
      cases letter

end Token

namespace Timestamp
open Binary64 (noColonPadded paddedLength)

theorem noColonDate (year month day : Nat) :
    colon ∉ separated '-' [padded 4 year,padded 2 month,padded 2 day] := by
  have mark : colon ≠ '-' := by decide
  simp [separated,Text.join,padded,noColonPadded,mark]

theorem unescapedPadded (width n : Nat) : Json.Unescaped (padded width n) := by
  refine Json.unescapedDigits fun c member => ?_
  rcases List.mem_append.mp member with zeros | digits
  · rw [(List.mem_replicate.mp zeros).2]
    decide
  · exact (Json.digitsNumeral n).2 c digits

theorem unescapedTime {micros : Int} {t : Text} (written : ofMicroseconds micros = .ok t) :
    Json.Unescaped t := by
  obtain ⟨_,_,shown⟩ := exceptOk.mp written
  cases shown
  have letter : Json.Unescaped ("T" : Text) ∧ Json.Unescaped ("+00:00" : Text) ∧
      Json.Unescaped [('.' : CodePoint)] := by decide
  have marks : Json.Unescaped [('-' : CodePoint)] ∧ Json.Unescaped [(':' : CodePoint)] := by decide
  have fraction (n : Nat) : Json.Unescaped (if n = 0 then [] else ('.' : CodePoint) :: padded 6 n) := by
    split
    · exact nofun
    · exact Json.unescapedAppend.mpr ⟨letter.2.2,unescapedPadded 6 n⟩
  simp only [Json.unescapedAppend,separated,Text.join,unescapedPadded,marks,letter,fraction,and_self]

theorem splitAtHour (date x y z rest offset : Text) :
    date ++ "T" ++ separated ':' [x,y,z] ++ rest ++ offset =
      (date ++ "T" ++ x) ++ colon :: (y ++ colon :: (z ++ (rest ++ offset))) := by
  simp [separated,Text.join,colon]

theorem fractionLength {n : Nat} (small : n < 1000000) :
    (if n = 0 then [] else ('.' : CodePoint) :: padded 6 n).length ≤ 7 := by
  split
  · exact Nat.zero_le 7
  · rw [List.length_cons,padded,paddedLength (by decide) small]

theorem shortAfterHour {micros : Int} {t : Text} (written : ofMicroseconds micros = .ok t) :
    ∃ before after, t = before ++ colon :: after ∧ colon ∉ before ∧ after.length ≤ 19 := by
  obtain ⟨_,_,shown⟩ := exceptOk.mp written
  cases shown
  refine ⟨_,_,splitAtHour _ _ _ _ _ _,?_,?_⟩
  · rw [List.mem_append,List.mem_append]
    exact not_or_intro (not_or_intro (noColonDate _ _ _) (by decide)) (noColonPadded 2 _)
  · have below := Int.fmod_lt_of_pos micros (by decide : (0 : Int) < 1000000)
    have small : (Int.fmod micros 1000000).toNat < 1000000 := by omega
    have fraction := fractionLength small
    have minute (n : Nat) : (padded 2 (n % 60)).length = 2 :=
      paddedLength (by decide) ((Nat.mod_lt n (by decide)).trans (by decide))
    have offset : ("+00:00" : Text).length = 6 := rfl
    simp only [List.length_append,List.length_cons,minute,offset]
    omega

theorem showsNoToken {value : Value} {t token number secret ending : Text}
    (written : ofValue value = .ok t) (parts : Token.Parts token number secret ending) :
    ¬ token <:+: Json.escape t := by
  have micros : ∃ micros, ofMicroseconds micros = .ok t := by
    rw [ofValue.eq_def] at written
    split at written <;> first | exact ⟨_,written⟩ | cases written
  obtain ⟨micros,written⟩ := micros
  rw [Json.escapeUnescaped (unescapedTime written)]
  obtain ⟨before,after,rfl,first,short⟩ := shortAfterHour written
  intro within
  have follows := Text.followsFirst (parts.whole ▸ within) first
  rw [List.length_append,parts.length,Token.secretLength] at follows
  omega

end Timestamp
end BotGateway
