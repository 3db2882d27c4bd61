import BotGateway.Text.Quoted
import BotGateway.Value.Basic

/-! Values as text for messages: quoted, as inside a collection, and shown on their own. -/
namespace BotGateway.Value

def attributeName (field : Text) : Text := if field == "from" then "from_field" else field

def quotedOption (t : Option Text) : Text :=
  match t with
  | none => "None"
  | some t => Quoted.text t

def quotedSource (s : Source) : Text := s.typeName ++ "(name=" ++ s.label.quoted ++ ")"

def fileAttributes (f : InputFile) : List Text :=
  ["file_id=" ++ quotedOption f.fileId,"url=" ++ quotedOption f.url,
    "file=" ++ ((f.content.map quotedSource).getD "None")]

mutual

def quoted : Value → Text
  | .null => "None"
  | .bool true => "True"
  | .bool false => "False"
  | .int n => Numeral.ofInt n
  | .float x => x.display
  | .text t => Quoted.text t
  | .bytes raw => Quoted.bytes raw
  | .list items => "[" ++ Text.join ", " (quotedItems items) ++ "]"
  | .tuple [item] => "(" ++ quoted item ++ ",)"
  | .tuple items => "(" ++ Text.join ", " (quotedItems items) ++ ")"
  | .set [] => "set()"
  | .set items => "\x7b" ++ Text.join ", " (quotedItems items) ++ "\x7d"
  | .map entries => "\x7b" ++ Text.join ", " (quotedEntries entries) ++ "\x7d"
  | .record kind fields => kind.name ++ "(" ++ Text.join ", " (quotedFields fields) ++ ")"
  | .file f => "InputFile(" ++ Text.join ", " (fileAttributes f) ++ ")"
  | .source s => quotedSource s
  | .bare => "<object object>"

def quotedItems : List Value → List Text
  | [] => []
  | item :: rest => quoted item :: quotedItems rest

def quotedEntries : List (Value × Value) → List Text
  | [] => []
  | (key,value) :: rest => (quoted key ++ ": " ++ quoted value) :: quotedEntries rest

def quotedFields : List (Text × Value) → List Text
  | [] => []
  | (name,value) :: rest => (attributeName name ++ "=" ++ quoted value) :: quotedFields rest

end

def display : Value → Text
  | .text t => t
  | .record _ fields => Text.join " " (quotedFields fields)
  | .file f => Text.join " " (fileAttributes f)
  | value => quoted value

mutual

def hasLongInteger : Value → Bool
  | .int n => Numeral.isLong n
  | .list items => hasLongItem items
  | .tuple items => hasLongItem items
  | .set items => hasLongItem items
  | .map entries => hasLongEntry entries
  | .record _ fields => hasLongField fields
  | _ => false

def hasLongItem : List Value → Bool
  | [] => false
  | item :: rest => hasLongInteger item || hasLongItem rest

def hasLongEntry : List (Value × Value) → Bool
  | [] => false
  | (key,value) :: rest => hasLongInteger key || hasLongInteger value || hasLongEntry rest

def hasLongField : List (Text × Value) → Bool
  | [] => false
  | (_,value) :: rest => hasLongInteger value || hasLongField rest

end

def label (name : Value) : Label := ⟨name.display,name.quoted,!name.isTruthy⟩

end BotGateway.Value
