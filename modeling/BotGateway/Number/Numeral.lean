import BotGateway.Text.Class

/-! Integer numerals: written in decimal, read in decimal or hexadecimal with a sign, single
underscores between digits and blanks around. Decimal numerals are limited in length. -/
namespace BotGateway.Numeral

def ofNat (n : Nat) : Text := (Nat.toDigits 10 n).map CodePoint.ofChar

def ofInt : Int → Text
  | .ofNat n => ofNat n
  | .negSucc n => "-" ++ ofNat (n + 1)

def value (base : Nat) (digits : List Nat) : Nat := digits.foldl (fun n d => n * base + d) 0

def scan (digit : CodePoint → Option Nat) : Text → Option (List Nat × Text)
  | [] => none
  | c :: rest =>
    match digit c with
    | none => none
    | some d =>
      match rest with
      | [] => some ([d],[])
      | next :: more =>
        if next == '_' then (scan digit more).map fun (ds,tail) => (d :: ds,tail)
        else match digit next with
          | some _ => (scan digit (next :: more)).map fun (ds,tail) => (d :: ds,tail)
          | none => some ([d],next :: more)

def afterSign : Text → Bool × Text
  | [] => (false,[])
  | c :: rest =>
    if c == '-' then (true,rest) else if c == '+' then (false,rest) else (false,c :: rest)

def signed (negative : Bool) (n : Nat) : Int := if negative then -n else n

inductive Fault where
  | invalid
  | tooLong (digits : Nat)
  deriving DecidableEq, Repr

def maxDigits : Nat := 4300

def isLong (n : Int) : Bool := maxDigits < (Nat.toDigits 10 n.natAbs).length

def limitText : Text :=
  "Exceeds the limit (" ++ ofNat maxDigits ++ " digits) for integer string conversion"

def adviceText : Text := "; use sys.set_int_max_str_digits() to increase the limit"

def isMargin (c : CodePoint) : Bool :=
  c == ' ' || (9 ≤ c.val && c.val ≤ 13) || (0x7F < c.val && Class.isBlank c)

def readDecimal (text : Text) : Except Fault Int :=
  let (negative,body) := afterSign (text.dropWhile isMargin)
  match scan Class.decimalValue body with
  | none => .error .invalid
  | some (digits,rest) =>
    if digits.length > maxDigits then .error (.tooLong digits.length)
    else if rest.all isMargin then .ok (signed negative (value 10 digits))
    else .error .invalid

def afterHexMark (text : Text) : Text :=
  match text with
  | a :: b :: rest =>
    if a == '0' && (b == 'x' || b == 'X') then
      match rest with
      | c :: more => if c == '_' then more else rest
      | [] => []
    else text
  | _ => text

def isAsciiMargin (c : CodePoint) : Bool := c == ' ' || (9 ≤ c.val && c.val ≤ 13)

def readHex (text : Text) : Except Fault Int :=
  let (negative,body) := afterSign (text.dropWhile isAsciiMargin)
  match scan Class.hexValue (afterHexMark body) with
  | none => .error .invalid
  | some (digits,rest) =>
    if rest.all isAsciiMargin then .ok (signed negative (value 16 digits)) else .error .invalid

end BotGateway.Numeral
