import BotGateway.Json.Basic
import BotGateway.Record.Kind

/-! Values as callers pass them and as decoding yields them: document values, byte strings, other
collections, records, files to send and the sources behind them. -/
namespace BotGateway

structure Label where
  shown : Text
  quoted : Text
  absent : Bool
  deriving DecidableEq, Repr

/-- Content that can be read. The handle tells one source from another; what reading does is kept
elsewhere, since it changes with every read. -/
structure Source where
  handle : Nat
  typeName : Text
  label : Label
  deriving DecidableEq, Repr

structure InputFile where
  fileId : Option Text
  url : Option Text
  content : Option Source
  deriving DecidableEq, Repr

inductive Value where
  | null
  | bool (b : Bool)
  | int (n : Int)
  | float (x : Binary64)
  | text (t : Text)
  | bytes (raw : Bytes)
  | list (items : List Value)
  | tuple (items : List Value)
  | set (items : List Value)
  | map (entries : List (Value × Value))
  | record (kind : RecordKind) (fields : List (Text × Value))
  | file (file : InputFile)
  | source (source : Source)
  | bare
  deriving Repr

namespace InputFile

def given (reference : Option Text) : Option Text := reference.filter (!·.isEmpty)

def remoteRef (file : InputFile) : Text :=
  match given file.fileId with
  | some fileId => fileId
  | none => (given file.url).getD []

def isLocal (file : InputFile) : Bool := (given file.fileId).isNone && (given file.url).isNone

def filename (file : InputFile) : Text :=
  match file.content with
  | some source => if source.label.absent then "file" else Text.baseName source.label.shown
  | none => "file"

end InputFile

namespace Value

def typeName : Value → Text
  | .null => "NoneType"
  | .bool _ => "bool"
  | .int _ => "int"
  | .float _ => "float"
  | .text _ => "str"
  | .bytes _ => "bytes"
  | .list _ => "list"
  | .tuple _ => "tuple"
  | .set _ => "set"
  | .map _ => "dict"
  | .record kind _ => kind.name
  | .file _ => "InputFile"
  | .source s => s.typeName
  | .bare => "object"

def isNull : Value → Bool
  | .null => true
  | _ => false

def isTruthy : Value → Bool
  | .null => false
  | .bool b => b
  | .int n => n != 0
  | .float x => !x.isZero
  | .text t => !t.isEmpty
  | .bytes raw => !raw.isEmpty
  | .list items | .tuple items | .set items => !items.isEmpty
  | .map entries => !entries.isEmpty
  | _ => true

def integral? : Value → Option Int
  | .bool b => some (if b then 1 else 0)
  | .int n => some n
  | .float x => x.toInt?
  | _ => none

mutual

def sameKey : Value → Value → Bool
  | .null, .null => true
  | .text a, .text b => a == b
  | .bytes a, .bytes b => a == b
  | .float x, .float y => x.equals y
  | .tuple xs, .tuple ys => sameKeys xs ys
  | a, b =>
    match a.integral?, b.integral? with
    | some m, some n => m == n
    | _, _ => false

def sameKeys : List Value → List Value → Bool
  | [], [] => true
  | x :: xs, y :: ys => sameKey x y && sameKeys xs ys
  | _, _ => false

end

def setEntry (key value : Value) : List (Value × Value) → List (Value × Value)
  | [] => [(key,value)]
  | (k,v) :: rest =>
    if sameKey k key then (k,value) :: rest else (k,v) :: setEntry key value rest

def ofEntries (pairs : List (Value × Value)) : Value :=
  .map (pairs.foldl (fun entries (key,value) => setEntry key value entries) [])

def isKey (key : Text) : Value → Bool
  | .text t => t == key
  | _ => false

def entry? (key : Text) (entries : List (Value × α)) : Option α :=
  (entries.find? fun (k,_) => isKey key k).map (·.2)

mutual

def ofJson : Json → Value
  | .null => .null
  | .bool b => .bool b
  | .int n => .int n
  | .float x => .float x
  | .text t => .text t
  | .array items => .list (ofJsonItems items)
  | .object members => .map (ofJsonMembers members)

def ofJsonItems : List Json → List Value
  | [] => []
  | item :: rest => ofJson item :: ofJsonItems rest

def ofJsonMembers : List (Text × Json) → List (Value × Value)
  | [] => []
  | (key,value) :: rest => (.text key,ofJson value) :: ofJsonMembers rest

end

end Value
end BotGateway
