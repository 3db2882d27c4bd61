import BotGateway.Value.Display

/-! Call parameters split into document fields and the local files that go beside them. Fields
without a value are left out at every depth, items of a list are kept. -/
namespace BotGateway

structure Attachment where
  partName : Text
  file : InputFile
  deriving DecidableEq, Repr

namespace Attachment

def nameOf (path : List Text) : Text := Text.join "_" path

def placeholder (partName : Text) : Text := "attach://" ++ partName

def ofFile? (path : List Text) (file : InputFile) : Option Attachment :=
  if file.isLocal then some ⟨nameOf path,file⟩ else none

def reference (path : List Text) (file : InputFile) : Text :=
  if file.isLocal then placeholder (nameOf path) else file.remoteRef

end Attachment

namespace Value

def fileFields (file : InputFile) : List (Text × Value) :=
  [("file_id",(file.fileId.map .text).getD .null),("url",(file.url.map .text).getD .null),
    ("file",(file.content.map .source).getD .null)]

def members : Value → List (Text × Value)
  | .map entries =>
    (entries.filter fun (_,v) => !v.isNull).map fun (k,v) => (k.display,v)
  | .record _ fields => fields.filter fun (_,v) => !v.isNull
  | .file f => (fileFields f).filter fun (_,v) => !v.isNull
  | _ => []

def setField (name : Text) (value : α) : List (Text × α) → List (Text × α)
  | [] => [(name,value)]
  | (n,v) :: rest => if n == name then (name,value) :: rest else (n,v) :: setField name value rest

/-- Of fields with equal names the last value stands at the place of the first. -/
def lastOfEach (fields : List (Text × α)) : List (Text × α) :=
  fields.foldl (fun seen (name,value) => setField name value seen) []

def ofFields (fields : List (Text × Value)) : Value :=
  .map ((lastOfEach fields).map fun (name,value) => (.text name,value))

mutual

def wire (path : List Text) : Value → Value
  | .file f => .text (Attachment.reference path f)
  | .map entries => ofFields (wireEntries path entries)
  | .record _ fields => ofFields (wireFields path fields)
  | .list items => .list (wireItems path 0 items)
  | .tuple items => .list (wireItems path 0 items)
  | value => value

def wireEntries (path : List Text) : List (Value × Value) → List (Text × Value)
  | [] => []
  | (key,value) :: rest =>
    if value.isNull then wireEntries path rest
    else (key.display,wire (path ++ [key.display]) value) :: wireEntries path rest

def wireFields (path : List Text) : List (Text × Value) → List (Text × Value)
  | [] => []
  | (name,value) :: rest =>
    if value.isNull then wireFields path rest
    else (name,wire (path ++ [name]) value) :: wireFields path rest

def wireItems (path : List Text) (index : Nat) : List Value → List Value
  | [] => []
  | item :: rest =>
    wire (path ++ [Numeral.ofNat index]) item :: wireItems path (index + 1) rest

end

mutual

def attachments (path : List Text) : Value → List Attachment
  | .file f => (Attachment.ofFile? path f).toList
  | .map entries => attachmentsOfEntries path entries
  | .record _ fields => attachmentsOfFields path fields
  | .list items => attachmentsOfItems path 0 items
  | .tuple items => attachmentsOfItems path 0 items
  | _ => []

def attachmentsOfEntries (path : List Text) : List (Value × Value) → List Attachment
  | [] => []
  | (key,value) :: rest =>
    attachments (path ++ [key.display]) value ++ attachmentsOfEntries path rest

def attachmentsOfFields (path : List Text) : List (Text × Value) → List Attachment
  | [] => []
  | (name,value) :: rest =>
    attachments (path ++ [name]) value ++ attachmentsOfFields path rest

def attachmentsOfItems (path : List Text) (index : Nat) : List Value → List Attachment
  | [] => []
  | item :: rest =>
    attachments (path ++ [Numeral.ofNat index]) item ++ attachmentsOfItems path (index + 1) rest

end

mutual

/-- Whether a key that is to become a name has no text. Entries without a value are passed over. -/
def hasLongKey : Value → Bool
  | .map entries => hasLongKeyEntry entries
  | .record _ fields => hasLongKeyField fields
  | .list items => hasLongKeyItem items
  | .tuple items => hasLongKeyItem items
  | _ => false

def hasLongKeyEntry : List (Value × Value) → Bool
  | [] => false
  | (key,value) :: rest =>
    if value.isNull then hasLongKeyEntry rest
    else key.hasLongInteger || hasLongKey value || hasLongKeyEntry rest

def hasLongKeyField : List (Text × Value) → Bool
  | [] => false
  | (_,value) :: rest => hasLongKey value || hasLongKeyField rest

def hasLongKeyItem : List Value → Bool
  | [] => false
  | item :: rest => hasLongKey item || hasLongKeyItem rest

end

def isPart : Value → Bool
  | .file f => f.isLocal
  | _ => false

end Value

structure Prepared where
  fields : List (Text × Value)
  attachments : List Attachment

namespace Prepared

def ofParameters (parameters : Value) : Prepared :=
  let members := parameters.members
  ⟨Value.lastOfEach ((members.filter fun (_,v) => !v.isPart).map fun (name,value) =>
      (name,value.wire [name])),
    members.flatMap fun (name,value) => value.attachments [name]⟩

def document (prepared : Prepared) : Value := Value.ofFields prepared.fields

end Prepared
end BotGateway
