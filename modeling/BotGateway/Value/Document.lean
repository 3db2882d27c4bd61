import BotGateway.Value.Display

/-! Values as documents. Tuples become arrays, and scalar keys become text; what has no document
form is an error or, on request, its display text. Integers too long for a numeral have none. -/
namespace BotGateway.Value

inductive Unwritable where
  | value (typeName : Text)
  | key (typeName : Text)
  | longInteger
  deriving DecidableEq, Repr

def keyText : Value → Except Unwritable Text
  | .text t => .ok t
  | .int n => if Numeral.isLong n then .error .longInteger else .ok (Numeral.ofInt n)
  | .float x => .ok (Binary64.documentLayout.render x)
  | .bool b => .ok (if b then "true" else "false" : String)
  | .null => .ok "null"
  | other => .error (.key other.typeName)

mutual

def toJson (showing : Bool) : Value → Except Unwritable Json
  | .null => .ok .null
  | .bool b => .ok (.bool b)
  | .int n => if Numeral.isLong n then .error .longInteger else .ok (.int n)
  | .float x => .ok (.float x)
  | .text t => .ok (.text t)
  | .list items => return .array (← toJsonItems showing items)
  | .tuple items => return .array (← toJsonItems showing items)
  | .map entries => return .object (← toJsonEntries showing entries)
  | other =>
    if !showing then .error (.value other.typeName)
    else if other.hasLongInteger then .error .longInteger
    else .ok (.text other.display)

def toJsonItems (showing : Bool) : List Value → Except Unwritable (List Json)
  | [] => .ok []
  | item :: rest => do
    let json ← toJson showing item
    return json :: (← toJsonItems showing rest)

def toJsonEntries (showing : Bool) : List (Value × Value) → Except Unwritable (List (Text × Json))
  | [] => .ok []
  | (key,value) :: rest => do
    let key ← keyText key
    let json ← toJson showing value
    return (key,json) :: (← toJsonEntries showing rest)

end

def write (value : Value) : Except Unwritable Text :=
  return (← value.toJson false).write Json.compact

end BotGateway.Value
