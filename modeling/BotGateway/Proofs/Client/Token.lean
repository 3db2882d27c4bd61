import BotGateway.Client.Basic
import BotGateway.Proofs.Action
import BotGateway.Proofs.Journal.Tokens
import BotGateway.Proofs.Number.Reading
import BotGateway.Proofs.Text.Cutting

/-! Which texts are taken for tokens: a number, a colon and a secret of its length, by themselves or
with one line break behind them. -/
namespace BotGateway.Token
variable {token core : Text}

def Whole (token : Text) : Prop := ∃ number secret, Parts token number secret []

def Broken (token : Text) : Prop := ∃ core, Whole core ∧ token = core ++ [('\n' : CodePoint)]

theorem formedIff : isWellFormed token = true ↔ Whole token := by
  constructor
  · exact formedParts
  · intro whole
    obtain ⟨number,secret,parts⟩ := whole
    have free : colon ∉ number := by
      intro inside
      exact absurd (parts.decimal colon inside) (by decide)
    have split : Text.splitFirst (':' : CodePoint) token = some (number,secret) := by
      rw [parts.whole,List.append_nil]
      exact Text.splitFirstAt free secret
    have filled : number.isEmpty = false := List.isEmpty_eq_false_iff.mpr parts.numbered
    have decimal : number.all Class.isDecimal = true := List.all_eq_true.mpr parts.decimal
    have hidden : secret.all isSecretPart = true := List.all_eq_true.mpr parts.hidden
    have counted : (secret.length == secretLength) = true := beq_iff_eq.mpr parts.length
    simp only [isWellFormed,split,filled,decimal,counted,hidden,Bool.not_false,Bool.and_self]

theorem wordNoBlank {c : CodePoint} (blank : Class.isBlank c = true) : isSecretPart c = false := by
  have letter : Class.within Class.alphanumeric c = false :=
    Class.withinApart (by decide +kernel) blank
  have mark : c ≠ '_' ∧ c ≠ '-' := by
    constructor
    all_goals
      intro same
      rw [same] at blank
      revert blank
      decide
  rw [isSecretPart,Class.isWord,letter,beq_false_of_ne mark.1,beq_false_of_ne mark.2]
  rfl

theorem Whole.unspaced (whole : Whole token) : ∀ c ∈ token, Class.isBlank c = false := by
  obtain ⟨number,secret,parts⟩ := whole
  intro c inside
  by_contra blank
  rw [Bool.not_eq_false] at blank
  have digit := Class.blankNoDigit blank
  rw [Class.isDigit,Bool.or_eq_false_iff] at digit
  rw [parts.whole,List.append_nil,List.mem_append,List.mem_cons] at inside
  rcases inside with inNumber | isColon | inSecret
  · exact Bool.false_ne_true (digit.1.symm.trans (parts.decimal c inNumber))
  · rw [isColon] at blank
    revert blank
    decide
  · exact Bool.false_ne_true ((wordNoBlank blank).symm.trans (parts.hidden c inSecret))

theorem Whole.unbroken (whole : Whole token) : ('\n' : CodePoint) ∉ token :=
  fun inside => absurd (whole.unspaced _ inside) (by decide)

theorem Broken.notWhole (broken : Broken token) : ¬ Whole token := by
  obtain ⟨core,_,same⟩ := broken
  intro whole
  exact whole.unbroken (same ▸ List.mem_append_right core List.mem_cons_self)

theorem withoutLineBreak (core : Text) : withoutLineEnd (core ++ [('\n' : CodePoint)]) = core := by
  simp [withoutLineEnd]

theorem Whole.withoutEnd (whole : Whole token) : withoutLineEnd token = token := by
  rw [withoutLineEnd]
  split
  · rename_i c last
    have other : c ≠ '\n' := fun same => whole.unbroken (same ▸ List.mem_of_getLast? last)
    rw [if_neg (by simpa using other)]
  · rfl

theorem lineEndCases (token : Text) :
    token = withoutLineEnd token ∨ token = withoutLineEnd token ++ [('\n' : CodePoint)] := by
  cases last : token.getLast? with
  | none => exact .inl (by rw [withoutLineEnd,last])
  | some c =>
    by_cases same : c = '\n'
    · rw [same] at last
      have whole := List.dropLast_append_getLast? _ last
      rw [← whole,withoutLineBreak]
      exact .inr rfl
    · exact .inl (by rw [withoutLineEnd,last]; simp [same])

theorem validIff : isValid token = true ↔ Whole token ∨ Broken token := by
  rw [isValid]
  constructor
  · intro formed
    have whole := formedIff.mp formed
    rcases lineEndCases token with same | same
    · exact .inl (same ▸ whole)
    · exact .inr ⟨_,whole,same⟩
  · intro either
    rcases either with whole | broken
    · rw [whole.withoutEnd]
      exact formedIff.mpr whole
    · obtain ⟨core,whole,same⟩ := broken
      rw [same,withoutLineBreak]
      exact formedIff.mpr whole

end BotGateway.Token

namespace BotGateway.Client
open Token

def withToken (token apiUrl : Text) (timeout : Value) (boundary : Text) : Client :=
  ⟨token,Text.trimEnd (· == ('/' : CodePoint)) apiUrl,timeout,boundary⟩

structure Lawful (token : Text) : Prop where
  accepted : isValid token = true ↔ Whole token
  constructed : Whole token → ∀ {world : Type} (scene : Scene world) apiUrl timeout boundary,
    (create token apiUrl timeout boundary).perform scene =
      (.ok (withToken token apiUrl timeout boundary),⟨scene.journal.register token,scene.world⟩)
  refused : ¬ Whole token → ∀ {world : Type} (scene : Scene world) apiUrl timeout boundary,
    (create token apiUrl timeout boundary).perform scene = (.error .badToken,scene)
  unspaced : ∀ {world : Type} (scene after : Scene world) apiUrl timeout boundary client,
    (create token apiUrl timeout boundary).perform scene = (.ok client,after) →
      ∀ endpoint, ∀ c ∈ client.methodUrl endpoint, Class.isBlank c = true →
        c ∈ client.apiUrl ∨ c ∈ endpoint

section Created
variable {world : Type} {scene after : Scene world} {token apiUrl boundary : Text} {timeout : Value}
  {client : Client}

theorem createValid (valid : isValid token = true) :
    (create token apiUrl timeout boundary).perform scene =
      (.ok (withToken token apiUrl timeout boundary),⟨scene.journal.register token,scene.world⟩) := by
  rw [create,if_pos valid]
  rfl

theorem createInvalid (invalid : ¬ isValid token = true) :
    (create token apiUrl timeout boundary).perform scene = (.error .badToken,scene) := by
  rw [create,if_neg invalid]
  rfl

theorem createdToken (made : (create token apiUrl timeout boundary).perform scene = (.ok client,after)) :
    isValid token = true ∧ client.token = token := by
  by_cases valid : isValid token = true
  · rw [createValid valid] at made
    cases made
    exact ⟨valid,rfl⟩
  · rw [createInvalid valid] at made
    cases made

end Created

theorem urlBlanks {client : Client} {endpoint : Text} {c : CodePoint}
    (inside : c ∈ client.methodUrl endpoint) (blank : Class.isBlank c = true) :
    c ∈ client.apiUrl ∨ c ∈ client.token ∨ c ∈ endpoint := by
  have marks : (("/bot" : Text) ++ ("/" : Text)).all (fun c => !Class.isBlank c) = true := by decide
  have unmarked : c ∉ ("/bot" : Text) ++ ("/" : Text) := by
    intro mark
    have plain := List.all_eq_true.mp marks c mark
    rw [blank] at plain
    cases plain
  rw [List.mem_append,not_or] at unmarked
  simp only [methodUrl,List.mem_append] at inside
  rcases inside with (((inUrl | inWord) | inToken) | inMark) | inEndpoint
  · exact .inl inUrl
  · exact absurd inWord unmarked.1
  · exact .inr (.inl inToken)
  · exact absurd inMark unmarked.2
  · exact .inr (.inr inEndpoint)

theorem lawfulUnbroken {token : Text} (unbroken : ¬ Broken token) : Lawful token := by
  have accepted : isValid token = true ↔ Whole token := validIff.trans (or_iff_left unbroken)
  exact {
    accepted
    constructed := fun whole _ _ _ _ _ => createValid (accepted.mpr whole)
    refused := fun part _ _ _ _ _ => createInvalid (mt accepted.mp part)
    unspaced := by
      intro world scene after apiUrl timeout boundary client made endpoint c inside blank
      obtain ⟨valid,same⟩ := createdToken made
      rcases urlBlanks inside blank with inUrl | inToken | inEndpoint
      · exact .inl inUrl
      · have plain := (accepted.mp valid).unspaced c (same ▸ inToken)
        exact absurd blank (Bool.not_eq_true _ ▸ plain)
      · exact .inr inEndpoint }

/-- Only a line break behind a token is taken along with it, and then comes into every address. -/
theorem constructedExactly (token : Text) :
    (isValid token = true ↔ Whole token ∨ Broken token) ∧ (Lawful token ↔ ¬ Broken token) ∧
    (Broken token → ∀ {world : Type} (scene : Scene world) apiUrl timeout boundary,
      (create token apiUrl timeout boundary).perform scene =
        (.ok (withToken token apiUrl timeout boundary),⟨scene.journal.register token,scene.world⟩) ∧
      ∀ endpoint, ('\n' : CodePoint) ∈ (withToken token apiUrl timeout boundary).methodUrl endpoint) := by
  apply And.intro validIff
  constructor
  · constructor
    · intro lawful broken
      exact broken.notWhole (lawful.accepted.mp (validIff.mpr (.inr broken)))
    · exact lawfulUnbroken
  · intro broken world scene apiUrl timeout boundary
    apply And.intro (createValid (validIff.mpr (.inr broken)))
    intro endpoint
    obtain ⟨core,_,same⟩ := broken
    simp [methodUrl,withToken,same]

def torn : Text := Text.ofString "1:" ++ List.replicate 35 ('a' : CodePoint) ++ [('\n' : CodePoint)]

theorem tornAccepted : isValid torn = true ∧ ¬ Whole torn ∧ ¬ Lawful torn := by
  have valid : isValid torn = true := by decide +kernel
  have part : ¬ Whole torn := fun whole => whole.unbroken (by decide +kernel)
  exact ⟨valid,part,fun lawful => part (lawful.accepted.mp valid)⟩

end BotGateway.Client
