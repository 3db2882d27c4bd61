import BotGateway.Number.Digits
import BotGateway.Text.Quoted

/-! Documents: the value type, with members in order, and its written forms. -/
namespace BotGateway

inductive Json where
  | null
  | bool (b : Bool)
  | int (n : Int)
  | float (x : Binary64)
  | text (t : Text)
  | array (items : List Json)
  | object (members : List (Text × Json))
  deriving Repr

namespace Json

def member? (key : Text) : Json → Option Json
  | .object members => members.lookup key
  | _ => none

def insert (key : Text) (value : Json) : List (Text × Json) → List (Text × Json)
  | [] => [(key,value)]
  | (k,v) :: rest => if k == key then (key,value) :: rest else (k,v) :: insert key value rest

def ofPairs (pairs : List (Text × Json)) : Json :=
  .object (pairs.foldl (fun members (key,value) => insert key value members) [])

structure Spacing where
  item : Text
  key : Text

def compact : Spacing := ⟨",",":"⟩

def spaced : Spacing := ⟨", ",": "⟩

def escapeOne (c : CodePoint) : Text :=
  if c == '"' then "\\\""
  else if c == '\\' then "\\\\"
  else if 0x20 ≤ c.val then [c]
  else if c == '\n' then "\\n"
  else if c == '\r' then "\\r"
  else if c == '\t' then "\\t"
  else if c.val = 8 then "\\b"
  else if c.val = 12 then "\\f"
  else "\\u" ++ Quoted.hex 4 c.val

def quote (t : Text) : Text := "\"" ++ t.flatMap escapeOne ++ "\""

mutual

def write (spacing : Spacing) : Json → Text
  | .null => "null"
  | .bool true => "true"
  | .bool false => "false"
  | .int n => Numeral.ofInt n
  | .float x => Binary64.documentLayout.render x
  | .text t => quote t
  | .array items => "[" ++ writeItems spacing items ++ "]"
  | .object members => "\x7b" ++ writeMembers spacing members ++ "\x7d"

def writeItems (spacing : Spacing) : List Json → Text
  | [] => []
  | [item] => write spacing item
  | item :: next :: rest =>
    write spacing item ++ spacing.item ++ writeItems spacing (next :: rest)

def writeMembers (spacing : Spacing) : List (Text × Json) → Text
  | [] => []
  | [(key,value)] => quote key ++ spacing.key ++ write spacing value
  | (key,value) :: next :: rest =>
    quote key ++ spacing.key ++ write spacing value ++ spacing.item ++
      writeMembers spacing (next :: rest)

end

end Json
end BotGateway
