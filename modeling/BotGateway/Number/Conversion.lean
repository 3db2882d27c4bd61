import BotGateway.Number.Digits

/-! Numbers written as a conversion asks: integers in a base, binary numbers with a set number of
places, digits, or whichever of the two is shorter. -/
namespace BotGateway.Conversion

def minus (negative : Bool) : Text := if negative then "-" else []

def natural (base least n : Nat) : Text :=
  let digits : Text := (Nat.toDigits base n).map CodePoint.ofChar
  List.replicate (least - digits.length) ('0' : CodePoint) ++ digits

def integer (base least : Nat) (mark : Text) (n : Int) : Text :=
  minus (n < 0) ++ mark ++ natural base least n.natAbs

def withFraction (pointed : Bool) (whole fraction : Text) : Text :=
  if fraction.isEmpty && !pointed then whole else whole ++ "." ++ fraction

def fixed (places : Nat) (pointed : Bool) (mantissa : Nat) (exponent : Int) : Text :=
  let (n,d) := Binary64.magnitude mantissa exponent
  let digits := natural 10 (places + 1) (Binary64.roundHalfEven (n * Nat.pow 10 places) d)
  withFraction pointed (digits.take (digits.length - places)) (digits.drop (digits.length - places))

def scientific (places : Nat) (pointed : Bool) (mantissa : Nat) (exponent : Int) : Text :=
  let value := Binary64.significant (places + 1) mantissa exponent
  withFraction pointed (Binary64.digitText (value.digits.take 1))
    (Binary64.digitText (value.digits.drop 1)) ++ Binary64.exponentText 'e' value.order

def general (count : Nat) (pointed : Bool) (mantissa : Nat) (exponent : Int) : Text :=
  let count := max count 1
  let value := Binary64.significant count mantissa exponent
  let kept (fraction : Text) : Text :=
    if pointed then fraction else Text.trimEnd (· == ('0' : CodePoint)) fraction
  if -4 ≤ value.order && value.order < count then
    let (whole,fraction) := Binary64.positional value.digits value.order
    withFraction pointed whole (kept fraction)
  else
    withFraction pointed (Binary64.digitText (value.digits.take 1))
      (kept (Binary64.digitText (value.digits.drop 1))) ++ Binary64.exponentText 'e' value.order

def binary (finite : Nat → Int → Text) : Binary64 → Text
  | .nan => "nan"
  | .infinite negative => minus negative ++ "inf"
  | .finite negative mantissa exponent => minus negative ++ finite mantissa exponent

end BotGateway.Conversion
