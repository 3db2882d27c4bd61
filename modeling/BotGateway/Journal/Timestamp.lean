import BotGateway.Failure

/-! Points of time as text: seconds since 1970 as a date and a time of day at the prime meridian, to
the microsecond. -/
namespace BotGateway.Timestamp

structure Date where
  year : Int
  month : Nat
  day : Nat
  deriving DecidableEq, Repr

def epoch : Int := 719468

def daysInCycle : Int := 146097

/-- The date so many days after the first of 1970. Years are counted from March, so that a leap day
is the last day of its year. -/
def dateOf (days : Int) : Date :=
  let shifted := days + epoch
  let cycle := Int.fdiv shifted daysInCycle
  let inCycle := (Int.fmod shifted daysInCycle).toNat
  let year := (inCycle - inCycle / 1460 + inCycle / 36524 - inCycle / 146096) / 365
  let inYear := inCycle - (365 * year + year / 4 - year / 100)
  let month := (5 * inYear + 2) / 153
  let day := inYear - (153 * month + 2) / 5 + 1
  let month := if month < 10 then month + 3 else month - 9
  ⟨cycle * 400 + year + (if month ≤ 2 then 1 else 0),month,day⟩

def padded (width n : Nat) : Text := Binary64.paddedNat width n

def separated (mark : CodePoint) (parts : List Text) : Text := Text.join [mark] parts

def outOfRange : Failure := .raised .overflow "timestamp out of range for platform time_t"

def yearTooLarge : Failure := .raised .os "[Errno 75] Value too large for defined data type"

/-- Seconds are counted in 64 bits and years, from 1900 on, in 32. A year outside of the calendar is
named by its value in 32 bits. -/
def checkRange (seconds year : Int) : Except Failure Unit :=
  if Int.bmod seconds 0x10000000000000000 != seconds then .error outOfRange
  else if Int.bmod (year - 1900) 0x100000000 != year - 1900 then .error yearTooLarge
  else if year < 1 || 9999 < year then .error (.yearOutOfRange (Int.bmod year 0x100000000))
  else .ok ()

def ofMicroseconds (micros : Int) : Except Failure Text := do
  let seconds := Int.fdiv micros 1000000
  let fraction := (Int.fmod micros 1000000).toNat
  let date := dateOf (Int.fdiv seconds 86400)
  let inDay := (Int.fmod seconds 86400).toNat
  checkRange seconds date.year
  return separated '-' [padded 4 date.year.toNat,padded 2 date.month,padded 2 date.day] ++ "T" ++
    separated ':' [padded 2 (inDay / 3600),padded 2 (inDay / 60 % 60),padded 2 (inDay % 60)] ++
    (if fraction = 0 then [] else ('.' : CodePoint) :: padded 6 fraction) ++ "+00:00"

def microsecondsOf (negative : Bool) (mantissa : Nat) (exponent : Int) : Int :=
  let (n,d) := Binary64.magnitude mantissa exponent
  let rounded := match Binary64.ofRatio false (n % d * 1000000) d with
    | .finite _ m e =>
      let (n,d) := Binary64.magnitude m e
      Binary64.roundHalfEven n d
    | _ => 0
  Numeral.signed negative (n / d * 1000000 + rounded)

def ofValue : Value → Except Failure Text
  | .int n => ofMicroseconds (n * 1000000)
  | .bool b => ofMicroseconds (if b then 1000000 else 0)
  | .float (.finite negative mantissa exponent) =>
    ofMicroseconds (microsecondsOf negative mantissa exponent)
  | .float .nan => .error (.raised .value "Invalid value NaN (not a number)")
  | .float _ => .error outOfRange
  | other => .error (.notInteger other.typeName)

end BotGateway.Timestamp
