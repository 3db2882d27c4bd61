import BotGateway.Failure
import BotGateway.Http.Line
import BotGateway.Text.Case

/-! Header fields of a request. The section is read line by line up to an empty line; within it a
carriage return alone also ends a line, and the first line that is no header ends the fields. -/
namespace BotGateway.Http

abbrev Fields := List (Text × Text)

def maxHeaderLine : Nat := 65536

def maxHeaderLines : Nat := 100

inductive SectionFault where
  | lineTooLong
  | tooManyLines
  deriving DecidableEq, Repr

def readSection : Nat → Bytes → Except SectionFault Bytes × Bytes
  | 0, stream =>
    let (line,rest) := readLine (maxHeaderLine + 1) stream
    if maxHeaderLine < line.length then (.error .lineTooLong,rest) else (.error .tooManyLines,rest)
  | room + 1, stream =>
    let (line,rest) := readLine (maxHeaderLine + 1) stream
    if maxHeaderLine < line.length then (.error .lineTooLong,rest)
    else if isEmptyLine line || line.isEmpty then (.ok line,rest)
    else
      let (result,after) := readSection room rest
      (result.map fun others => line ++ others,after)

def carriageReturn : CodePoint := '\r'

def newLine : CodePoint := '\n'

def splitLines : Text → List Text
  | [] => []
  | c :: rest =>
    match splitLines rest with
    | [] => [[c]]
    | line :: lines =>
      if c == newLine || (c == carriageReturn && line.head? != some newLine) then
        [c] :: line :: lines
      else (c :: line) :: lines

def isNamePart (c : CodePoint) : Bool := 0x21 ≤ c.val && c.val ≤ 0x7E && c != ':'

def startsBlank (line : Text) : Bool :=
  match line with
  | c :: _ => c == ' ' || c == '\t'
  | [] => false

def separator : Text := "From "

def isHeaderLine (line : Text) : Bool :=
  startsBlank line || separator.isPrefixOf line ||
    (line.dropWhile isNamePart).head? == some (':' : CodePoint)

def fieldOf? (line : Text) : Option (Text × Text) :=
  if separator.isPrefixOf line then none
  else match Text.splitFirst (':' : CodePoint) line with
    | some (name,value) =>
      if name.isEmpty then none else some (name,value.dropWhile fun c => c == ' ' || c == '\t')
    | none => none

def isLineEnd (c : CodePoint) : Bool := c == carriageReturn || c == newLine

def closed (field : Text × Text) : Text × Text := (field.1,Text.trimEnd isLineEnd field.2)

def fold : Option (Text × Text) → List Text → Fields
  | last, [] => (last.map closed).toList
  | last, line :: rest =>
    if startsBlank line then fold (last.map fun (name,value) => (name,value ++ line)) rest
    else (last.map closed).toList ++ fold (fieldOf? line) rest

def ofSection (section_ : Bytes) : Fields :=
  fold none ((splitLines (Quoted.latin section_)).takeWhile isHeaderLine)

def sameName (a b : Text) : Bool := a.map Case.asciiLower == b.map Case.asciiLower

def Fields.get? (fields : Fields) (name : Text) : Option Text :=
  (fields.find? fun (n,_) => sameName n name).map (·.2)

end BotGateway.Http
