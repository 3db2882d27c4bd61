import BotGateway.Json.Basic
import BotGateway.Text.Wide

/-! Reading of documents in two dialects. The strict one takes UTF-8, refuses surrogate escapes
without a partner and limits nesting; the tolerant one takes any Unicode encoding and keeps lone
surrogates. Both take the three special numbers by name. Comments are not covered. -/
namespace BotGateway.Json

structure Dialect where
  loneSurrogates : Bool
  depth : Option Nat

def isSpace (c : CodePoint) : Bool := c == ' ' || c == '\n' || c == '\r' || c == '\t'

def skip (t : Text) : Text := t.dropWhile isSpace

inductive Piece where
  | plain (c : CodePoint)
  | numbered (n : Nat)

def simpleEscape (c : CodePoint) : Option CodePoint :=
  if c == '"' || c == '\\' || c == '/' then some c
  else if c == 'b' then some (.ofNat 8)
  else if c == 'f' then some (.ofNat 12)
  else if c == 'n' then some (.ofNat 10)
  else if c == 'r' then some (.ofNat 13)
  else if c == 't' then some (.ofNat 9)
  else none

def pieces : Text → Option (List Piece × Text)
  | [] => none
  | c :: rest =>
    if c == '"' then some ([],rest)
    else if c.val < 0x20 then none
    else if c != '\\' then (pieces rest).map fun (ps,tail) => (.plain c :: ps,tail)
    else match rest with
      | [] => none
      | e :: rest =>
        match simpleEscape e with
        | some c => (pieces rest).map fun (ps,tail) => (.plain c :: ps,tail)
        | none =>
          if e != 'u' then none
          else match rest with
            | h₁ :: h₂ :: h₃ :: h₄ :: rest =>
              match Class.hexValue h₁, Class.hexValue h₂, Class.hexValue h₃, Class.hexValue h₄ with
              | some a, some b, some c, some d =>
                let n := ((a * 16 + b) * 16 + c) * 16 + d
                (pieces rest).map fun (ps,tail) => (.numbered n :: ps,tail)
              | _, _, _, _ => none
            | _ => none

def joinPieces (loneSurrogates : Bool) : List Piece → Option Text
  | [] => some []
  | .plain c :: rest => (joinPieces loneSurrogates rest).map (c :: ·)
  | .numbered n :: .numbered m :: rest =>
    if Wide.isHigh n && Wide.isLow m then
      (joinPieces loneSurrogates rest).map (Wide.joined n m :: ·)
    else if (Wide.isHigh n || Wide.isLow n) && !loneSurrogates then none
    else (joinPieces loneSurrogates (.numbered m :: rest)).map (CodePoint.ofNat n :: ·)
  | .numbered n :: rest =>
    if (Wide.isHigh n || Wide.isLow n) && !loneSurrogates then none
    else (joinPieces loneSurrogates rest).map (CodePoint.ofNat n :: ·)

def string (dialect : Dialect) (t : Text) : Option (Text × Text) := do
  let (ps,tail) ← pieces t
  let content ← joinPieces dialect.loneSurrogates ps
  some (content,tail)

def plainDigits (t : Text) : List Nat × Text :=
  ((t.takeWhile Class.isAsciiDigit).map (·.val - 48),t.dropWhile Class.isAsciiDigit)

def wholeDigits (t : Text) : Option (List Nat × Text) :=
  match t with
  | [] => none
  | c :: rest =>
    if c == '0' then some ([0],rest)
    else match plainDigits t with
      | ([],_) => none
      | found => some found

def fractionDigits : Text → Option (List Nat × Text)
  | [] => some ([],[])
  | c :: rest =>
    if c != '.' then some ([],c :: rest)
    else match plainDigits rest with
      | ([],_) => none
      | found => some found

def exponentPart : Text → Option (Option Int × Text)
  | [] => some (none,[])
  | c :: rest =>
    if c != 'e' && c != 'E' then some (none,c :: rest)
    else
      let (negative,body) := Numeral.afterSign rest
      match plainDigits body with
      | ([],_) => none
      | (ds,tail) => some (some (Numeral.signed negative (Numeral.value 10 ds)),tail)

def number (negative : Bool) (t : Text) : Option (Json × Text) := do
  let (whole,rest) ← wholeDigits t
  let (fraction,rest) ← fractionDigits rest
  let (power,rest) ← exponentPart rest
  if fraction.isEmpty && power.isNone then
    if whole.length > Numeral.maxDigits then none
    else some (.int (Numeral.signed negative (Numeral.value 10 whole)),rest)
  else
    let coefficient := Numeral.value 10 (whole ++ fraction)
    some (.float (.ofDecimal negative coefficient (power.getD 0 - fraction.length)),rest)

def names : List (Text × Json) :=
  [("null",.null),("true",.bool true),("false",.bool false),("NaN",.float .nan),
    ("Infinity",.float (.infinite false)),("-Infinity",.float (.infinite true))]

def scalar (t : Text) : Option (Json × Text) :=
  match names.find? fun (name,_) => name.isPrefixOf t with
  | some (name,json) => some (json,t.drop name.length)
  | none =>
    match t with
    | c :: rest => if c == '-' then number true rest else number false t
    | [] => none

mutual

/-- A value at the start of the text. The first number bounds the steps, the second the nesting
of containers that are not empty. -/
def value (dialect : Dialect) : Nat → Nat → Text → Option (Json × Text)
  | 0, _, _ => none
  | _ + 1, _, [] => none
  | fuel + 1, depth, c :: rest =>
    if c == '"' then (string dialect rest).map fun (t,tail) => (.text t,tail)
    else if c == '[' then
      match skip rest, depth with
      | [], _ => none
      | b :: tail, 0 => if b == ']' then some (.array [],tail) else none
      | b :: tail, depth + 1 =>
        if b == ']' then some (.array [],tail)
        else (items dialect fuel depth (b :: tail)).map fun (xs,tail) => (.array xs,tail)
    else if c == '{' then
      match skip rest, depth with
      | [], _ => none
      | b :: tail, 0 => if b == '}' then some (.object [],tail) else none
      | b :: tail, depth + 1 =>
        if b == '}' then some (.object [],tail)
        else (members dialect fuel depth (b :: tail)).map fun (ms,tail) => (ofPairs ms,tail)
    else scalar (c :: rest)

def items (dialect : Dialect) : Nat → Nat → Text → Option (List Json × Text)
  | 0, _, _ => none
  | fuel + 1, depth, t => do
    let (x,rest) ← value dialect fuel depth t
    match skip rest with
    | [] => none
    | c :: rest =>
      if c == ']' then some ([x],rest)
      else if c == ',' then do
        let (xs,rest) ← items dialect fuel depth (skip rest)
        some (x :: xs,rest)
      else none

def members (dialect : Dialect) : Nat → Nat → Text → Option (List (Text × Json) × Text)
  | 0, _, _ => none
  | _ + 1, _, [] => none
  | fuel + 1, depth, q :: t =>
    if q != '"' then none
    else do
      let (key,rest) ← string dialect t
      match skip rest with
      | [] => none
      | colon :: rest =>
        if colon != ':' then none
        else do
          let (x,rest) ← value dialect fuel depth (skip rest)
          match skip rest with
          | [] => none
          | c :: rest =>
            if c == '}' then some ([(key,x)],rest)
            else if c == ',' then do
              let (xs,rest) ← members dialect fuel depth (skip rest)
              some ((key,x) :: xs,rest)
            else none

end

def read? (dialect : Dialect) (t : Text) : Option Json := do
  let fuel := 2 * t.length + 1
  let (json,rest) ← value dialect fuel (dialect.depth.getD fuel) (skip t)
  if (skip rest).isEmpty then some json else none

def strict : Dialect := ⟨false,some 200⟩

def tolerant : Dialect := ⟨true,none⟩

def ofStrictBytes? (raw : Bytes) : Option Json := (Utf8.decode? raw).bind (read? strict)

def ofTolerantBytes? (raw : Bytes) : Option Json := (Wide.decodeDetected? raw).bind (read? tolerant)

end BotGateway.Json
