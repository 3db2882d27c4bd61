import BotGateway.Envelope

/-! The methods with a known signature: their parameters in order and the type of their result. -/
namespace BotGateway

structure Method where
  endpoint : Text
  parameters : List Text
  required : Nat
  result : ResultType

namespace Method

def define (endpoint : String) (required optional : List String) (result : ResultType) : Method :=
  ⟨endpoint,(required ++ optional).map Text.ofString,required.length,result⟩

def boolean : ResultType := .shaped .boolean

def one (kind : RecordKind) : ResultType := .shaped (.record kind)

def many (kind : RecordKind) : ResultType := .shaped (.listOf (.record kind))

def getMe : Method := define "getMe" [] [] (one .user)

def getUpdates : Method :=
  define "getUpdates" [] ["offset","limit","timeout","allowed_updates"] (many .update)

def setWebhook : Method :=
  define "setWebhook" ["url"] ["certificate","ip_address","max_connections","allowed_updates",
    "drop_pending_updates","secret_token"] boolean

def deleteWebhook : Method := define "deleteWebhook" [] ["drop_pending_updates"] boolean

def getWebhookInfo : Method := define "getWebhookInfo" [] [] (one .webhookInfo)

def sendMessage : Method :=
  define "sendMessage" ["chat_id","text"]
    ["parse_mode","entities","disable_notification","reply_markup"] (one .message)

def sendPhoto : Method :=
  define "sendPhoto" ["chat_id","photo"] ["caption","parse_mode","has_spoiler","reply_markup"]
    (one .message)

def sendDocument : Method :=
  define "sendDocument" ["chat_id","document"]
    ["thumbnail","caption","disable_content_type_detection","reply_markup"] (one .message)

def sendMediaGroup : Method :=
  define "sendMediaGroup" ["chat_id","media"] ["disable_notification"] (many .message)

def setMessageReaction : Method :=
  define "setMessageReaction" ["chat_id","message_id"] ["reaction","is_big"] boolean

def getChatMember : Method :=
  define "getChatMember" ["chat_id","user_id"] [] (.variant .chatMember)

def getChatAdministrators : Method :=
  define "getChatAdministrators" ["chat_id"] [] (.variants .chatMember)

def setMyCommands : Method :=
  define "setMyCommands" ["commands"] ["scope","language_code"] boolean

def getMyCommands : Method :=
  define "getMyCommands" [] ["scope","language_code"] (many .botCommand)

def getChatMenuButton : Method :=
  define "getChatMenuButton" [] ["chat_id"] (.variant .menuButton)

def known : List Method := [
  getMe,getUpdates,setWebhook,deleteWebhook,getWebhookInfo,sendMessage,sendPhoto,sendDocument,
  sendMediaGroup,setMessageReaction,getChatMember,getChatAdministrators,setMyCommands,
  getMyCommands,getChatMenuButton]

def isCapital (c : CodePoint) : Bool := 0x41 ≤ c.val && c.val ≤ 0x5A

def inWords (endpoint : Text) : Text :=
  endpoint.flatMap fun c => if isCapital c then ['_',Case.asciiLower c] else [c]

def ofWords? (words : Text) : Option Method := known.find? fun method => inWords method.endpoint == words

def fault? (method : Method) (places : List Value) (named : List (Text × Value)) :
    Option CallFault :=
  let taken := method.parameters.take places.length
  let isKnown (name : Text) : Bool := method.parameters.contains name
  match named.find? fun (name,_) => !isKnown name || taken.contains name with
  | some (name,_) => some (if isKnown name then .givenTwice name else .unknownName name)
  | none =>
    if method.parameters.length < places.length then
      some (.tooMany (method.required + 1) (method.parameters.length + 1) (places.length + 1))
    else
      let asked := (method.parameters.take method.required).drop places.length
      let missing := asked.filter fun name => (named.lookup name).isNone
      if missing.isEmpty then none else some (.missing missing)

def pairs (named : List (Text × Value)) : List Text → List Value → List (Value × Value)
  | [], _ => []
  | name :: names, [] => (.text name,(named.lookup name).getD .null) :: pairs named names []
  | name :: names, value :: values => (.text name,value) :: pairs named names values

def bind (method : Method) (places : List Value) (named : List (Text × Value)) :
    Except Failure Value :=
  match method.fault? places named with
  | some fault => .error (.badCall (inWords method.endpoint) fault)
  | none => .ok (.map (pairs named method.parameters places))

end Method
end BotGateway
