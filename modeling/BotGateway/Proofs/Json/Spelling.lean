import BotGateway.Json.Reader

/-! The texts that spell a document, with what they mean. A spelling means nothing where a limit
refuses it: an integer of too many digits, or an escaped surrogate alone. -/
namespace BotGateway.Json

def enclosed (first : CodePoint) (t : Text) (last : CodePoint) : Text := first :: (t ++ [last])

def Blank (t : Text) : Prop := ∀ c ∈ t, isSpace c = true

def Digits (t : Text) : Prop := t ≠ [] ∧ ∀ c ∈ t, Class.isAsciiDigit c = true

def figures (t : Text) : List Nat := t.map (·.val - 48)

inductive Whole : Text → Prop where
  | zero : Whole ['0']
  | counted {c : CodePoint} {t : Text} (digits : Digits (c :: t)) (first : c ≠ '0') : Whole (c :: t)

inductive Fraction : Text → List Nat → Prop where
  | none : Fraction [] []
  | given {t : Text} (digits : Digits t) : Fraction ('.' :: t) (figures t)

inductive Exponent : Text → Option Int → Prop where
  | none : Exponent [] none
  | plain {mark : CodePoint} {t : Text} (marks : mark = 'e' ∨ mark = 'E') (digits : Digits t) :
      Exponent (mark :: t) (some (Numeral.value 10 (figures t)))
  | signed {mark : CodePoint} {t : Text} (negative : Bool) (marks : mark = 'e' ∨ mark = 'E')
      (digits : Digits t) :
      Exponent (mark :: (if negative then '-' else '+') :: t)
        (some (Numeral.signed negative (Numeral.value 10 (figures t))))

def counted (negative : Bool) (whole fraction : List Nat) (power : Option Int) : Option Json :=
  if fraction.isEmpty && power.isNone then
    if whole.length > Numeral.maxDigits then none
    else some (.int (Numeral.signed negative (Numeral.value 10 whole)))
  else
    some (.float (.ofDecimal negative (Numeral.value 10 (whole ++ fraction))
      (power.getD 0 - fraction.length)))

inductive Number : Text → Option Json → Prop where
  | plain {whole fraction exponent fs power} (w : Whole whole) (f : Fraction fraction fs)
      (e : Exponent exponent power) :
      Number (whole ++ (fraction ++ exponent)) (counted false (figures whole) fs power)
  | negative {whole fraction exponent fs power} (w : Whole whole) (f : Fraction fraction fs)
      (e : Exponent exponent power) :
      Number ('-' :: (whole ++ (fraction ++ exponent))) (counted true (figures whole) fs power)

inductive Chars : Text → List Piece → Prop where
  | nil : Chars [] []
  | plain {c : CodePoint} {t : Text} {ps : List Piece} (visible : 0x20 ≤ c.val) (quote : c ≠ '"')
      (escape : c ≠ '\\') (rest : Chars t ps) : Chars (c :: t) (.plain c :: ps)
  | simple {e c : CodePoint} {t : Text} {ps : List Piece} (escape : simpleEscape e = some c)
      (rest : Chars t ps) : Chars ('\\' :: e :: t) (.plain c :: ps)
  | numbered {h₁ h₂ h₃ h₄ : CodePoint} {n₁ n₂ n₃ n₄ : Nat} {t : Text} {ps : List Piece}
      (first : Class.hexValue h₁ = some n₁) (second : Class.hexValue h₂ = some n₂)
      (third : Class.hexValue h₃ = some n₃) (fourth : Class.hexValue h₄ = some n₄)
      (rest : Chars t ps) :
      Chars ('\\' :: 'u' :: h₁ :: h₂ :: h₃ :: h₄ :: t)
        (.numbered (((n₁ * 16 + n₂) * 16 + n₃) * 16 + n₄) :: ps)

structure Labelled where
  before : Text
  key : Text
  name : Option Text
  between : Text
  value : Text
  meaning : Option Json

namespace Labelled

def text (part : Labelled) : Text :=
  part.before ++ (enclosed '"' part.key '"' ++ (part.between ++ (':' : CodePoint) :: part.value))

def entry (part : Labelled) : Option (Text × Json) := do
  let name ← part.name
  let json ← part.meaning
  some (name,json)

structure Sound (dialect : Dialect) (part : Labelled) : Prop where
  before : Blank part.before
  key : ∃ ps, Chars part.key ps ∧ part.name = joinPieces dialect.loneSurrogates ps
  between : Blank part.between

end Labelled

inductive Spelt (dialect : Dialect) : Nat → Text → Option Json → Prop where
  | named {n : Nat} {name : Text} {json : Json} (known : (name,json) ∈ names) :
      Spelt dialect n name (some json)
  | number {n : Nat} {t : Text} {meaning : Option Json} (number : Number t meaning) :
      Spelt dialect n t meaning
  | text {n : Nat} {t : Text} {ps : List Piece} (chars : Chars t ps) :
      Spelt dialect n (enclosed '"' t '"') ((joinPieces dialect.loneSurrogates ps).map .text)
  | noItems {n : Nat} {t : Text} (blank : Blank t) :
      Spelt dialect n (enclosed '[' t ']') (some (.array []))
  | items {n : Nat} {parts : List (Text × Option Json)} (filled : parts ≠ [])
      (spelt : ∀ part ∈ parts, Spelt dialect n part.1 part.2) :
      Spelt dialect (n + 1) (enclosed '[' (Text.join "," (parts.map (·.1))) ']')
        ((parts.mapM Prod.snd).map .array)
  | noMembers {n : Nat} {t : Text} (blank : Blank t) :
      Spelt dialect n (enclosed '{' t '}') (some (.object []))
  | members {n : Nat} {parts : List Labelled} (filled : parts ≠ [])
      (sound : ∀ part ∈ parts, part.Sound dialect)
      (spelt : ∀ part ∈ parts, Spelt dialect n part.value part.meaning) :
      Spelt dialect (n + 1) (enclosed '{' (Text.join "," (parts.map Labelled.text)) '}')
        ((parts.mapM Labelled.entry).map ofPairs)
  | padded {n : Nat} {before t after : Text} {meaning : Option Json} (first : Blank before)
      (spelt : Spelt dialect n t meaning) (last : Blank after) :
      Spelt dialect n (before ++ (t ++ after)) meaning

end BotGateway.Json
