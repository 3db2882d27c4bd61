import BotGateway.Number.Conversion
import BotGateway.Value.Display

/-! Message templates: `%` starts a directive, which is replaced by the next argument, or by a
named member of the one argument that is a mapping. -/
namespace BotGateway.Template

inductive Fault where
  | tooFew
  | tooMany
  | incomplete
  | incompleteKey
  | needsMapping
  | noMember (quoted : Text)
  | noMemberByName (typeName : Text)
  | widthNotInteger
  | widthTooBig
  | precisionTooBig
  | widthOverflow
  | precisionOverflow
  | unsupported (conversion : CodePoint) (index : Nat)
  | notInteger (conversion : CodePoint) (typeName : Text)
  | notReal (conversion : CodePoint) (typeName : Text)
  | notBinary (typeName : Text)
  | notCharacter
  | noSuchCharacter
  | nanToInteger
  | infinityToInteger
  | tooLargeForBinary
  | longInteger
  deriving DecidableEq, Repr

namespace Fault

def shown (c : CodePoint) : Text := if 31 ≤ c.val && c.val < 127 then [c] else "?"

def lowHex (n : Nat) : Text := (Nat.toDigits 16 n).map CodePoint.ofChar

def message : Fault → Text
  | .tooFew => "not enough arguments for format string"
  | .tooMany => "not all arguments converted during string formatting"
  | .incomplete => "incomplete format"
  | .incompleteKey => "incomplete format key"
  | .needsMapping => "format requires a mapping"
  | .noMember quoted => quoted
  | .noMemberByName typeName => typeName ++ " indices must be integers or slices, not str"
  | .widthNotInteger => "* wants int"
  | .widthTooBig => "width too big"
  | .precisionTooBig => "precision too big"
  | .widthOverflow => "Python int too large to convert to C ssize_t"
  | .precisionOverflow => "Python int too large to convert to C int"
  | .unsupported conversion index =>
    "unsupported format character '" ++ shown conversion ++ "' (0x" ++ lowHex conversion.val ++
      ") at index " ++ Numeral.ofNat index
  | .notInteger conversion typeName =>
    "%" ++ [conversion] ++ " format: an integer is required, not " ++ typeName
  | .notReal conversion typeName =>
    "%" ++ [conversion] ++ " format: a real number is required, not " ++ typeName
  | .notBinary typeName => "must be real number, not " ++ typeName
  | .notCharacter => "%c requires int or char"
  | .noSuchCharacter => "%c arg not in range(0x110000)"
  | .nanToInteger => "cannot convert float NaN to integer"
  | .infinityToInteger => "cannot convert float infinity to integer"
  | .tooLargeForBinary => "int too large to convert to float"
  | .longInteger => Numeral.limitText ++ Numeral.adviceText

end Fault

inductive Measure where
  | absent
  | given (n : Nat)
  | taken
  deriving DecidableEq, Repr

structure Directive where
  key : Option (Option Text)
  flags : Text
  width : Measure
  precision : Measure
  conversion : Except Fault CodePoint
  size : Nat

def isFlag (c : CodePoint) : Bool := ("-+ #0" : Text).contains c

def isSizeMark (c : CodePoint) : Bool := c == 'h' || c == 'l' || c == 'L'

def maxWidth : Nat := 0x7FFFFFFFFFFFFFFF

def maxPrecision : Nat := 0x7FFFFFFF

def readKey (depth : Nat) : Text → Option (Text × Text)
  | [] => none
  | c :: rest =>
    let next (depth : Nat) := (readKey depth rest).map fun (key,rest) => (c :: key,rest)
    if c == ')' then
      match depth with
      | 0 => some ([],rest)
      | depth + 1 => next depth
    else if c == '(' then next (depth + 1)
    else next depth

def readMeasure (text : Text) : Measure × Text :=
  match text with
  | c :: rest =>
    if c == '*' then (.taken,rest)
    else if Class.isAsciiDigit c then
      (.given (Numeral.value 10 ((text.takeWhile Class.isAsciiDigit).map fun c => c.val - 48)),
        text.dropWhile Class.isAsciiDigit)
    else (.absent,text)
  | [] => (.absent,[])

def readPrecision (text : Text) : Measure × Text :=
  match text with
  | c :: rest =>
    if c == '.' then
      match readMeasure rest with
      | (.absent,rest) => (.given 0,rest)
      | other => other
    else (.absent,text)
  | [] => (.absent,[])

def exceeds (limit : Nat) : Measure → Bool
  | .given n => limit < n
  | _ => false

def readDirective (text : Text) : Directive :=
  let keyed : Option (Option Text) × Text := match text with
    | c :: rest =>
      if c == '(' then
        match readKey 0 rest with
        | some (key,rest) => (some (some key),rest)
        | none => (some none,[])
      else (none,text)
    | [] => (none,text)
  let afterKey := keyed.2
  let afterFlags := afterKey.dropWhile isFlag
  let (width,afterWidth) := readMeasure afterFlags
  let (precision,afterPrecision) := readPrecision afterWidth
  let (conversion,rest) : Except Fault CodePoint × Text :=
    match afterPrecision with
    | [] => (.error .incomplete,[])
    | c :: rest =>
      if isSizeMark c then
        match rest with
        | [] => (.error .incomplete,[])
        | d :: rest => (.ok d,rest)
      else (.ok c,rest)
  let conversion : Except Fault CodePoint :=
    if keyed.1 = some none then .error .incompleteKey
    else if exceeds maxWidth width then .error .widthTooBig
    else if exceeds maxPrecision precision then .error .precisionTooBig
    else conversion
  ⟨keyed.1,afterKey.takeWhile isFlag,width,precision,conversion,text.length - rest.length⟩

structure Supply where
  values : List Value
  mapping : Option Value

namespace Supply

def ofValue : Value → Supply
  | .tuple items => ⟨items,none⟩
  | .map entries => ⟨[.map entries],some (.map entries)⟩
  | .list items => ⟨[.list items],some (.list items)⟩
  | .bytes raw => ⟨[.bytes raw],some (.bytes raw)⟩
  | other => ⟨[other],none⟩

def next (supply : Supply) : Except Fault (Value × Supply) :=
  match supply.values with
  | [] => .error .tooFew
  | value :: rest => .ok (value,⟨rest,supply.mapping⟩)

def member (key : Text) : Value → Except Fault Value
  | .map entries =>
    match Value.entry? key entries with
    | some value => .ok value
    | none => .error (.noMember (Quoted.text key))
  | .bytes _ => .error (.noMemberByName "byte")
  | _ => .error (.noMemberByName "list")

def keyed (supply : Supply) : Option (Option Text) → Except Fault Supply
  | none => .ok supply
  | some key =>
    match supply.mapping, key with
    | none, _ => .error .needsMapping
    | some _, none => .error .incompleteKey
    | some mapping, some key => do
      let value ← member key mapping
      return ⟨[value],some mapping⟩

def asInteger : Value → Except Fault Int
  | .int n => .ok n
  | .bool b => .ok (if b then 1 else 0)
  | _ => .error .widthNotInteger

def measure (supply : Supply) (limit : Nat) (overflow : Fault) :
    Measure → Except Fault (Option Int × Supply)
  | .absent => .ok (none,supply)
  | .given n => .ok (some n,supply)
  | .taken => do
    let (value,supply) ← supply.next
    let n ← asInteger value
    if n < -(limit : Int) - 1 || (limit : Int) < n then throw overflow
    return (some n,supply)

end Supply

structure Written where
  text : Text
  signed : Bool
  marked : Bool

structure Layout where
  flags : Text
  width : Int
  precision : Option Nat

namespace Layout

def has (layout : Layout) (flag : Char) : Bool := layout.flags.contains (flag : CodePoint)

def sign (layout : Layout) (written : Written) : Text × Text :=
  if !written.signed then ([],written.text)
  else match written.text with
    | c :: rest =>
      if c == '-' || c == '+' then ([c],rest)
      else if layout.has '+' then ("+",written.text)
      else if layout.has ' ' then (" ",written.text)
      else ([],written.text)
    | [] => ([],[])

def fill (layout : Layout) (written : Written) : Text :=
  let (sign,body) := layout.sign written
  let mark := if written.marked then body.take 2 else []
  let digits := body.drop mark.length
  let missing := layout.width.natAbs - (sign.length + mark.length + digits.length)
  let filled (c : CodePoint) : Text := List.replicate missing c
  if layout.has '-' || layout.width < 0 then sign ++ mark ++ digits ++ filled ' '
  else if written.signed && layout.has '0' then sign ++ mark ++ filled '0' ++ digits
  else filled ' ' ++ sign ++ mark ++ digits

def cut (layout : Layout) (text : Text) : Written :=
  ⟨match layout.precision with
    | some n => text.take n
    | none => text,false,false⟩

def integral (conversion : CodePoint) : Value → Except Fault Int
  | .int n => .ok n
  | .bool b => .ok (if b then 1 else 0)
  | .float x =>
    match x with
    | .nan => .error .nanToInteger
    | .infinite _ => .error .infinityToInteger
    | x => .ok (x.truncate?.getD 0)
  | other => .error (.notReal conversion other.typeName)

def exact (conversion : CodePoint) : Value → Except Fault Int
  | .int n => .ok n
  | .bool b => .ok (if b then 1 else 0)
  | other => .error (.notInteger conversion other.typeName)

def shown (value : Value) : Except Fault Value :=
  if value.hasLongInteger then .error .longInteger else .ok value

def decimal (conversion : CodePoint) (value : Value) : Except Fault Int := do
  let n ← integral conversion value
  if Numeral.isLong n then throw .longInteger
  return n

def binaryOf : Value → Except Fault Binary64
  | .float x => .ok x
  | .bool b => .ok (.ofInt (if b then 1 else 0))
  | .int n =>
    match Binary64.ofInt n with
    | .infinite _ => .error .tooLargeForBinary
    | x => .ok x
  | other => .error (.notBinary other.typeName)

def character : Value → Except Fault Text
  | .text [c] => .ok [c]
  | .int n => if h : 0 ≤ n ∧ n.toNat < 0x110000 then .ok [⟨n.toNat,h.2⟩] else .error .noSuchCharacter
  | .bool b => .ok [.ofNat b.toNat]
  | _ => .error .notCharacter

def integer (layout : Layout) (base : Nat) (mark : Text) (n : Int) : Written :=
  let mark := if layout.has '#' then mark else []
  ⟨Conversion.integer base (layout.precision.getD 0) mark n,true,!mark.isEmpty⟩

def upper (written : Written) : Written := {written with text := Case.upper written.text}

def binary (layout : Layout) (finite : Nat → Bool → Nat → Int → Text) (x : Binary64) : Written :=
  ⟨Conversion.binary (finite (layout.precision.getD 6) (layout.has '#')) x,true,false⟩

def convert (layout : Layout) (index : Nat) (conversion : CodePoint) (value : Value) :
    Except Fault Written := do
  let is (c : Char) : Bool := conversion == (c : CodePoint)
  if is 's' then return layout.cut (← shown value).display
  else if is 'r' then return layout.cut (← shown value).quoted
  else if is 'a' then return layout.cut ((← shown value).quoted.flatMap Quoted.asciiOne)
  else if is 'd' || is 'i' || is 'u' then return layout.integer 10 [] (← decimal conversion value)
  else if is 'o' then return layout.integer 8 "0o" (← exact conversion value)
  else if is 'x' then return layout.integer 16 "0x" (← exact conversion value)
  else if is 'X' then return upper (layout.integer 16 "0x" (← exact conversion value))
  else if is 'e' then return layout.binary Conversion.scientific (← binaryOf value)
  else if is 'E' then return upper (layout.binary Conversion.scientific (← binaryOf value))
  else if is 'f' then return layout.binary Conversion.fixed (← binaryOf value)
  else if is 'F' then return upper (layout.binary Conversion.fixed (← binaryOf value))
  else if is 'g' then return layout.binary Conversion.general (← binaryOf value)
  else if is 'G' then return upper (layout.binary Conversion.general (← binaryOf value))
  else if is 'c' then return ⟨← character value,false,false⟩
  else throw (.unsupported conversion index)

end Layout

def apply (directive : Directive) (index : Nat) (supply : Supply) :
    Except Fault (Text × Supply) := do
  let supply ← supply.keyed directive.key
  let (width,supply) ← supply.measure maxWidth .widthOverflow directive.width
  let (precision,supply) ← supply.measure maxPrecision .precisionOverflow directive.precision
  let conversion ← directive.conversion
  if directive.size = 1 && conversion == '%' then return ("%",supply)
  let (value,supply) ← supply.next
  let layout : Layout := ⟨directive.flags,width.getD 0,precision.map Int.toNat⟩
  return (layout.fill (← layout.convert index conversion value),supply)

/-- The template with its directives replaced from left to right. So many code points as `covered`
belong to a directive that is replaced already. -/
def fillFrom (total covered : Nat) (supply : Supply) : Text → Except Fault (Text × Supply)
  | [] => .ok ([],supply)
  | c :: rest => do
    if 0 < covered then fillFrom total (covered - 1) supply rest
    else if c == '%' then
      let directive := readDirective rest
      let place := total - (rest.length - directive.size) - 1
      let (written,supply) ← apply directive place supply
      let (tail,supply) ← fillFrom total directive.size supply rest
      return (written ++ tail,supply)
    else
      let (tail,supply) ← fillFrom total 0 supply rest
      return (c :: tail,supply)

def fill (template : Text) (arguments : Value) : Except Fault Text := do
  let (text,supply) ← fillFrom template.length 0 (.ofValue arguments) template
  if supply.mapping.isNone && !supply.values.isEmpty then throw .tooMany
  return text

end BotGateway.Template
