import BotGateway.Number.Numeral
import BotGateway.Text.Case

/-! Binary floating-point numbers of 64 bits in exact integer arithmetic: rounding of a quotient,
comparison with integers, and the reading of decimal text. -/
namespace BotGateway

/-- A finite value is `mantissa * 2 ^ exponent`, with `mantissa` below `2 ^ 53` and either
`2 ^ 52` or more, or `exponent` the least one, `-1074`. -/
inductive Binary64 where
  | nan
  | infinite (negative : Bool)
  | finite (negative : Bool) (mantissa : Nat) (exponent : Int)
  deriving DecidableEq, Repr

namespace Binary64

def leastExponent : Int := -1074

def greatestExponent : Int := 971

def zero (negative : Bool) : Binary64 := .finite negative 0 leastExponent

def roundHalfEven (numerator denominator : Nat) : Nat :=
  let floor := numerator / denominator
  let twice := 2 * (numerator % denominator)
  if twice < denominator then floor
  else if twice > denominator then floor + 1
  else if floor % 2 = 0 then floor else floor + 1

def scaled (numerator denominator : Nat) (exponent : Int) : Nat × Nat :=
  match exponent with
  | .ofNat n => (numerator,denominator * Nat.pow 2 n)
  | .negSucc n => (numerator * Nat.pow 2 (n + 1),denominator)

def binaryOrder (numerator denominator : Nat) : Int :=
  let guess : Int := (numerator.log2 : Int) - denominator.log2
  let (n,d) := scaled numerator denominator guess
  if n < d then guess - 1 else guess

def ofRatio (negative : Bool) (numerator denominator : Nat) : Binary64 :=
  if numerator = 0 then zero negative
  else
    let exponent := max (binaryOrder numerator denominator - 52) leastExponent
    let (n,d) := scaled numerator denominator exponent
    let mantissa := roundHalfEven n d
    let (mantissa,exponent) :=
      if mantissa = 0x20000000000000 then (0x10000000000000,exponent + 1) else (mantissa,exponent)
    if exponent > greatestExponent then .infinite negative
    else .finite negative mantissa exponent

/-- The nearest number to `coefficient * 10 ^ exponent`. Exponents far outside the range of the
type are cut off before the power is formed. -/
def ofDecimal (negative : Bool) (coefficient : Nat) (exponent : Int) : Binary64 :=
  let size : Int := coefficient.log2 / 3 + 1
  if coefficient = 0 || exponent + size < -400 then zero negative
  else if exponent > 400 then .infinite negative
  else match exponent with
    | .ofNat n => ofRatio negative (coefficient * Nat.pow 10 n) 1
    | .negSucc n => ofRatio negative coefficient (Nat.pow 10 (n + 1))

def ofInt (n : Int) : Binary64 := ofRatio (n < 0) n.natAbs 1

def magnitude (mantissa : Nat) (exponent : Int) : Nat × Nat := scaled mantissa 1 (-exponent)

def toInt? : Binary64 → Option Int
  | .finite negative mantissa exponent =>
    let (n,d) := magnitude mantissa exponent
    if n % d = 0 then some (Numeral.signed negative (n / d)) else none
  | _ => none

def truncate? : Binary64 → Option Int
  | .finite negative mantissa exponent =>
    let (n,d) := magnitude mantissa exponent
    some (Numeral.signed negative (n / d))
  | _ => none

def isZero : Binary64 → Bool
  | .finite _ mantissa _ => mantissa == 0
  | _ => false

def isNegative : Binary64 → Bool
  | .nan => false
  | .infinite negative => negative
  | .finite negative mantissa _ => negative && mantissa != 0

def equals : Binary64 → Binary64 → Bool
  | .nan, _ => false
  | _, .nan => false
  | x, y => x == y || (x.isZero && y.isZero)

def scanDecimal (text : Text) : Option (Nat × Int × Text) := do
  let part (t : Text) : List Nat × Text := (Numeral.scan Class.decimalValue t).getD ([],t)
  let (whole,rest) := part text
  let (fraction,rest) := match rest with
    | c :: more => if c == '.' then part more else ([],rest)
    | [] => ([],rest)
  if whole.isEmpty && fraction.isEmpty then none
  else
    let coefficient := Numeral.value 10 (whole ++ fraction)
    let plain := (coefficient,-(fraction.length : Int),rest)
    match rest with
    | c :: more =>
      if c == 'e' || c == 'E' then
        let (negative,digits) := Numeral.afterSign more
        let (power,tail) ← Numeral.scan Class.decimalValue digits
        some (coefficient,Numeral.signed negative (Numeral.value 10 power) - fraction.length,tail)
      else some plain
    | [] => some plain

def ofText? (text : Text) : Option Binary64 := do
  let (negative,body) := Numeral.afterSign (Text.trim Numeral.isMargin text)
  let name := body.map Case.asciiLower
  if name == "nan" then some .nan
  else if name == "inf" || name == "infinity" then some (.infinite negative)
  else
    let (coefficient,exponent,rest) ← scanDecimal body
    if rest.isEmpty then some (ofDecimal negative coefficient exponent) else none

end Binary64
end BotGateway
