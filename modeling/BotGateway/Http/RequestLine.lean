import BotGateway.Failure

/-! Request lines: a method, a target and a version. The short form without a version allows `GET`
alone. -/
namespace BotGateway.Http

structure RequestLine where
  method : Text
  target : Text
  version : Text
  deriving DecidableEq, Repr

def bareVersion : Text := "HTTP/0.9"

inductive LineFault where
  | badVersion (version : Text)
  | newVersion (number : Text)
  | badForm (line : Text)
  | badShortMethod (method : Text)
  deriving DecidableEq, Repr

structure Refusal where
  fault : LineFault
  version : Text
  deriving DecidableEq, Repr

namespace LineFault

def status : LineFault → Nat
  | .newVersion _ => 505
  | _ => 400

def message : LineFault → Text
  | .badVersion version => "Bad request version (" ++ Quoted.text version ++ ")"
  | .newVersion number => "Invalid HTTP version (" ++ number ++ ")"
  | .badForm line => "Bad request syntax (" ++ Quoted.text line ++ ")"
  | .badShortMethod method => "Bad HTTP/0.9 request type (" ++ Quoted.text method ++ ")"

end LineFault

def words (line : Text) : List Text :=
  (line.splitBy fun a b => Class.isBlank a == Class.isBlank b).filter fun word =>
    !word.any Class.isBlank

def versionPart (part : Text) : Option Int :=
  if !part.isEmpty && part.all Class.isDigit && part.length ≤ 10 then
    (Numeral.readDecimal part).toOption
  else none

def versionNumber (version : Text) : Option (Text × Int × Int) :=
  match ("HTTP/" : Text).isPrefixOf? version with
  | none => none
  | some number =>
    match Text.splitAll ('.' : CodePoint) number with
    | [major,minor] => do
      let major ← versionPart major
      let minor ← versionPart minor
      return (number,major,minor)
    | _ => none

def checkVersion (version : Text) : Except Refusal Text :=
  match versionNumber version with
  | none => .error ⟨.badVersion version,bareVersion⟩
  | some (number,major,_) =>
    if 2 ≤ major then .error ⟨.newVersion number,bareVersion⟩ else .ok version

def singleSlash (target : Text) : Text :=
  if ("//" : Text).isPrefixOf target then
    ('/' : CodePoint) :: target.dropWhile (· == ('/' : CodePoint))
  else target

namespace RequestLine

def ofLine (line : Text) : Except Refusal RequestLine :=
  match words line with
  | [method,target] =>
    if method == "GET" then .ok ⟨method,singleSlash target,bareVersion⟩
    else .error ⟨.badShortMethod method,bareVersion⟩
  | [method,target,version] => do
    let version ← checkVersion version
    return ⟨method,singleSlash target,version⟩
  | parts =>
    if parts.length < 3 then .error ⟨.badForm line,bareVersion⟩
    else do
      let version ← checkVersion ((parts.getLast?).getD [])
      throw ⟨.badForm line,version⟩

end RequestLine
end BotGateway.Http
