import BotGateway.Number.Binary64
import BotGateway.Schema.Issue
import BotGateway.Text.Case
import BotGateway.Text.Utf8
import BotGateway.Value.Basic

/-! Integers, truth values and text from values of other kinds. The flag of a result says that the
value had the asked kind already. -/
namespace BotGateway.Scalar
open Issue (Cause)

def readInteger (t : Text) : Except Cause Int :=
  let (negative,body) := Numeral.afterSign (Text.trim Class.isWhiteSpace t)
  let digit (c : CodePoint) : Option Nat := if Class.isAsciiDigit c then some (c.val - 48) else none
  match Numeral.scan digit body with
  | none => .error .unreadableInteger
  | some (digits,rest) =>
    let whole := match rest with
      | [] => true
      | c :: zeros => c == '.' && !zeros.isEmpty && zeros.all (· == '0')
    if !whole then .error .unreadableInteger
    else if digits.length > Numeral.maxDigits then .error .integerSize
    else .ok (Numeral.signed negative (Numeral.value 10 digits))

def trueWords : List Text := ["1","on","t","true","y","yes"]

def falseWords : List Text := ["0","off","f","false","n","no"]

def readBoolean (t : Text) : Except Cause Bool :=
  let word := t.map Case.asciiLower
  if trueWords.contains word then .ok true
  else if falseWords.contains word then .ok false
  else .error .unreadableBoolean

def wordBound : Int := 0x8000000000000000

def wholeNumber (x : Binary64) : Except Cause Int :=
  match x with
  | .nan | .infinite _ => .error .notFinite
  | _ =>
    match x.toInt? with
    | none => .error .fractional
    | some n => if -wordBound < n && n < wordBound then .ok n else .error .integerSize

def truth (n : Int) : Except Cause Bool :=
  if n = 0 then .ok false else if n = 1 then .ok true else .error .unreadableBoolean

def unlessSurrogate (t : Text) (read : Text → Except Cause α) : Except Cause α :=
  if t.any Utf8.isSurrogate then .error .notUnicode else read t

def integer : Value → Except Cause (Int × Bool)
  | .int n => .ok (n,true)
  | .bool b => .ok (if b then 1 else 0,false)
  | .float x => (wholeNumber x).map (·,false)
  | .text t => (unlessSurrogate t readInteger).map (·,false)
  | .bytes raw =>
    match Utf8.decode? raw with
    | none => .error .unreadableInteger
    | some t => (readInteger t).map (·,false)
  | _ => .error .notInteger

def boolean : Value → Except Cause (Bool × Bool)
  | .bool b => .ok (b,true)
  | .int n =>
    if -wordBound ≤ n && n < wordBound then (truth n).map (·,false) else .error .notBoolean
  | .float x =>
    match wholeNumber x with
    | .ok n => (truth n).map (·,false)
    | .error _ => .error .notBoolean
  | .text t => (unlessSurrogate t readBoolean).map (·,false)
  | .bytes raw =>
    match Utf8.decode? raw with
    | none => .error .unreadableBoolean
    | some t => (readBoolean t).map (·,false)
  | _ => .error .notBoolean

def text : Value → Except Cause (Text × Bool)
  | .text t => .ok (t,true)
  | .bytes raw =>
    match Utf8.decode? raw with
    | none => .error .notUnicode
    | some t => .ok (t,false)
  | _ => .error .notText

end BotGateway.Scalar
