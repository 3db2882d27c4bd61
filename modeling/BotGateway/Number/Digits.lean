import BotGateway.Number.Binary64

/-! Decimal digits of a binary number: the fewest that read back to it, a set number of them, and
a set number of places; and their layout with a point or an exponent. -/
namespace BotGateway.Binary64

structure Digits where
  digits : List Nat
  order : Int
  deriving DecidableEq, Repr

def atLeast (numerator denominator : Nat) : Int → Bool
  | .ofNat n => denominator * Nat.pow 10 n ≤ numerator
  | .negSucc n => denominator ≤ numerator * Nat.pow 10 (n + 1)

/-- The exponent of the greatest power of ten that is at most a positive quotient; the logarithm
gives a guess that is off by one at most. -/
def decimalOrder (numerator denominator : Nat) : Int :=
  let guess := Int.fdiv (binaryOrder numerator denominator * 30103) 100000
  if !atLeast numerator denominator guess then guess - 1
  else if atLeast numerator denominator (guess + 1) then guess + 1
  else guess

def shifted (numerator denominator : Nat) : Int → Nat × Nat
  | .ofNat n => (numerator,denominator * Nat.pow 10 n)
  | .negSucc n => (numerator * Nat.pow 10 (n + 1),denominator)

def digitsOf (n : Nat) : List Nat := (Nat.toDigits 10 n).map fun c => c.toNat - 48

/-- Of the two multiples of `10 ^ exponent` around the quotient, those that satisfy `accepted`;
the nearer one when both do, the even one when they are equally near. -/
def nearest (numerator denominator : Nat) (exponent : Int) (accepted : Nat → Bool) :
    Option Nat :=
  let (n,d) := shifted numerator denominator exponent
  let low := n / d
  let twice := 2 * (n % d)
  match accepted low, accepted (low + 1) with
  | false, false => none
  | true, false => some low
  | false, true => some (low + 1)
  | true, true =>
    if twice < d then some low
    else if twice > d then some (low + 1)
    else some (if low % 2 = 0 then low else low + 1)

def shortestFrom (mantissa : Nat) (exponent : Int) (order : Int) : Nat → Nat → Option (Nat × Int)
  | _, 0 => none
  | places, count + 1 =>
    let (n,d) := magnitude mantissa exponent
    let grid := order - places
    let readsBack (k : Nat) : Bool := ofDecimal false k grid == .finite false mantissa exponent
    match nearest n d grid readsBack with
    | some k => some (k,grid)
    | none => shortestFrom mantissa exponent order (places + 1) count

def shortest (mantissa : Nat) (exponent : Int) : Digits :=
  if mantissa = 0 then ⟨[0],0⟩
  else
    let (n,d) := magnitude mantissa exponent
    let order := decimalOrder n d
    match shortestFrom mantissa exponent order 0 17 with
    | none => ⟨[0],0⟩
    | some (k,grid) =>
      let all := digitsOf k
      let kept := Text.trimEnd (· == 0) all
      ⟨if kept.isEmpty then [0] else kept,grid + all.length - 1⟩

def significant (count : Nat) (mantissa : Nat) (exponent : Int) : Digits :=
  if mantissa = 0 then ⟨List.replicate count 0,0⟩
  else
    let (n,d) := magnitude mantissa exponent
    let order := decimalOrder n d
    let (n,d) := shifted n d (order - (count - 1 : Nat))
    let rounded := roundHalfEven n d
    if rounded = Nat.pow 10 count then ⟨1 :: List.replicate (count - 1) 0,order + 1⟩
    else ⟨digitsOf rounded,order⟩

def digitText (digits : List Nat) : Text := digits.map fun d => CodePoint.ofNat (48 + d)

def paddedNat (width n : Nat) : Text :=
  let text := Numeral.ofNat n
  List.replicate (width - text.length) ('0' : CodePoint) ++ text

def exponentText (mark : CodePoint) (order : Int) : Text :=
  [mark] ++ (if order < 0 then "-" else "+" : Text) ++ paddedNat 2 order.natAbs

def positional (digits : List Nat) (order : Int) : Text × Text :=
  match order with
  | .negSucc n => ("0",digitText (List.replicate n 0 ++ digits))
  | .ofNat n =>
    let whole := digits.take (n + 1)
    (digitText (whole ++ List.replicate (n + 1 - whole.length) 0),digitText (digits.drop (n + 1)))

structure Layout where
  least : Int
  greatest : Int
  fractionAlways : Bool
  nan : Text
  infinity : Text

def Layout.magnitude (layout : Layout) (value : Digits) : Text :=
  if layout.least ≤ value.order && value.order ≤ layout.greatest then
    let (whole,fraction) := positional value.digits value.order
    if fraction.isEmpty then if layout.fractionAlways then whole ++ ".0" else whole
    else whole ++ "." ++ fraction
  else
    let fraction := digitText (value.digits.drop 1)
    digitText (value.digits.take 1) ++ (if fraction.isEmpty then [] else ('.' : CodePoint) :: fraction) ++
      exponentText 'e' value.order

def Layout.render (layout : Layout) : Binary64 → Text
  | .nan => layout.nan
  | .infinite negative => (if negative then "-" else "" : Text) ++ layout.infinity
  | .finite negative mantissa exponent =>
    (if negative then "-" else "" : Text) ++ layout.magnitude (shortest mantissa exponent)

def displayLayout : Layout := ⟨-4,15,true,"nan","inf"⟩

def documentLayout : Layout := {displayLayout with nan := "NaN",infinity := "Infinity"}

def display (x : Binary64) : Text := displayLayout.render x

end BotGateway.Binary64
