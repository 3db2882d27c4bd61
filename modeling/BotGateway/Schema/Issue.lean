import BotGateway.Number.Numeral

/-! What is wrong with a value that does not fit its shape, and where. -/
namespace BotGateway

inductive Step where
  | field (name : Text)
  | index (n : Nat)
  deriving DecidableEq, Repr

inductive Issue.Cause where
  | missing
  | notRecord
  | malformed
  | notText
  | notUnicode
  | notInteger
  | unreadableInteger
  | integerSize
  | fractional
  | notFinite
  | notBoolean
  | unreadableBoolean
  | notLiteral
  | notList
  | notSource
  | noReference
  | longTag
  deriving DecidableEq, Repr

structure Issue where
  path : List Step
  cause : Issue.Cause
  deriving DecidableEq, Repr

namespace Issue

def Cause.code : Cause → Text
  | .missing => "missing"
  | .notRecord => "model_type"
  | .malformed => "json_invalid"
  | .notText => "string_type"
  | .notUnicode => "string_unicode"
  | .notInteger => "int_type"
  | .unreadableInteger => "int_parsing"
  | .integerSize => "int_parsing_size"
  | .fractional => "int_from_float"
  | .notFinite => "finite_number"
  | .notBoolean => "bool_type"
  | .unreadableBoolean => "bool_parsing"
  | .notLiteral => "literal_error"
  | .notList => "list_type"
  | .notSource | .noReference | .longTag => "value_error"

def Cause.explanation? : Cause → Option Text
  | .notSource => some "Value error, file must expose 'name' and 'read()'"
  | .noReference => some "Value error, one of file_id, url or file is required"
  | .longTag => some ("Value error, " ++ Numeral.limitText ++ Numeral.adviceText)
  | _ => none

def under (step : Step) (issue : Issue) : Issue := {issue with path := step :: issue.path}

end Issue

structure Report where
  title : Text
  issues : List Issue
  deriving DecidableEq, Repr
end BotGateway
