import BotGateway.Value.Basic

/-! Shapes that values are held against, and the fields of every kind of record. -/
namespace BotGateway

inductive Shape where
  | boolean
  | integer
  | text
  | anything
  | constant (value : Text)
  | always
  | optional (shape : Shape)
  | listOf (shape : Shape)
  | record (kind : RecordKind)
  | file
  | oneOf (members : List Shape)
  | tagged (set : VariantSet)
  deriving Repr

structure Field where
  name : Text
  shape : Shape
  default : Option Value

namespace Field

def required (name : String) (shape : Shape) : Field := ⟨name,shape,none⟩

def optional (name : String) (shape : Shape) : Field := ⟨name,.optional shape,some .null⟩

def tag (name tag : String) : Field := ⟨name,.constant tag,some (.text tag)⟩

def mark (name : String) : Field := ⟨name,.always,some (.bool true)⟩

end Field

namespace Shape

def chatRef : Shape := .oneOf [.integer,.text]

def fileRef : Shape := .oneOf [.file,.text]

def entities : Shape := .listOf (.record .messageEntity)

def replyMarkup : Shape :=
  .oneOf [.record .inlineKeyboardMarkup,.record .replyKeyboardMarkup,.record .replyKeyboardRemove,
    .record .forceReply]

def title : Shape → Text
  | .boolean => "bool"
  | .integer => "int"
  | .text => "str"
  | .anything => "any"
  | .constant value => value
  | .always => "true"
  | .optional shape => "nullable[" ++ title shape ++ "]"
  | .listOf shape => "list[" ++ title shape ++ "]"
  | .record kind => kind.name
  | .file => "InputFile"
  | .oneOf members => "union[" ++ Text.join "," (titles members) ++ "]"
  | .tagged set => set.name
where
  titles : List Shape → List Text
    | [] => []
    | shape :: rest => title shape :: titles rest

def simple : List (String × Shape) := [
  ("bool",.boolean),("int",.integer),("str",.text),("InputFile",.file),
  ("ReplyMarkup",replyMarkup)]

def single? (name : Text) : Option Shape :=
  match simple.find? fun (known,_) => (known : Text) == name with
  | some (_,shape) => some shape
  | none =>
    match VariantSet.ofName? name with
    | some set => some (.tagged set)
    | none => (RecordKind.ofName? name).map .record

def ofWords? : List Text → Option Shape
  | [] => none
  | [name] => single? name
  | word :: rest =>
    if word == "list" then (ofWords? rest).map .listOf
    else if word == "union" then ofWords? rest
    else none

end Shape

namespace RecordKind
open BotGateway.Field (required optional tag mark)

def fields : RecordKind → List Field
  | .envelope => [
    required "ok" .boolean,⟨"result",.anything,some .null⟩,optional "error_code" .integer,
    optional "description" .text,optional "parameters" (.record .responseParameters)]
  | .user => [
    required "id" .integer,required "is_bot" .boolean,required "first_name" .text,
    optional "last_name" .text,optional "username" .text,optional "language_code" .text,
    optional "can_join_groups" .boolean,optional "can_read_all_group_messages" .boolean,
    optional "supports_inline_queries" .boolean]
  | .chat => [
    required "id" .integer,required "type" .text,optional "title" .text,
    optional "username" .text,optional "first_name" .text,optional "last_name" .text,
    optional "is_forum" .boolean]
  | .messageEntity => [
    required "type" .text,required "offset" .integer,required "length" .integer,
    optional "url" .text,optional "user" (.record .user),optional "language" .text,
    optional "custom_emoji_id" .text]
  | .photoSize => [
    required "file_id" .text,required "file_unique_id" .text,required "width" .integer,
    required "height" .integer,optional "file_size" .integer]
  | .document => [
    required "file_id" .text,required "file_unique_id" .text,
    optional "thumbnail" (.record .photoSize),optional "file_name" .text,
    optional "mime_type" .text,optional "file_size" .integer]
  | .message => [
    required "message_id" .integer,required "date" .integer,required "chat" (.record .chat),
    optional "from" (.record .user),optional "sender_chat" (.record .chat),
    optional "message_thread_id" .integer,optional "reply_to_message" (.record .message),
    optional "edit_date" .integer,optional "media_group_id" .text,optional "text" .text,
    optional "entities" Shape.entities,optional "caption" .text,
    optional "caption_entities" Shape.entities,optional "photo" (.listOf (.record .photoSize)),
    optional "document" (.record .document),optional "new_chat_members" (.listOf (.record .user)),
    optional "left_chat_member" (.record .user),optional "migrate_to_chat_id" .integer,
    optional "migrate_from_chat_id" .integer,
    optional "reply_markup" (.record .inlineKeyboardMarkup)]
  | .messageId => [required "message_id" .integer]
  | .storedFile => [
    required "file_id" .text,required "file_unique_id" .text,optional "file_size" .integer,
    optional "file_path" .text]
  | .responseParameters => [
    optional "migrate_to_chat_id" .integer,optional "retry_after" .integer]
  | .webhookInfo => [
    required "url" .text,required "has_custom_certificate" .boolean,
    required "pending_update_count" .integer,optional "ip_address" .text,
    optional "last_error_date" .integer,optional "last_error_message" .text,
    optional "last_synchronization_error_date" .integer,optional "max_connections" .integer,
    optional "allowed_updates" (.listOf .text)]
  | .botCommand => [required "command" .text,required "description" .text]
  | .webAppInfo => [required "url" .text]
  | .memberOwner => [
    tag "status" "creator",required "user" (.record .user),required "is_anonymous" .boolean,
    optional "custom_title" .text]
  | .memberAdministrator => [
    tag "status" "administrator",required "user" (.record .user),
    required "can_be_edited" .boolean,required "is_anonymous" .boolean,
    required "can_manage_chat" .boolean,required "can_delete_messages" .boolean,
    required "can_manage_video_chats" .boolean,required "can_restrict_members" .boolean,
    required "can_promote_members" .boolean,required "can_change_info" .boolean,
    required "can_invite_users" .boolean,optional "can_post_messages" .boolean,
    optional "can_edit_messages" .boolean,optional "can_pin_messages" .boolean,
    optional "can_manage_topics" .boolean,optional "custom_title" .text]
  | .memberMember => [
    tag "status" "member",required "user" (.record .user),optional "until_date" .integer]
  | .memberRestricted => [
    tag "status" "restricted",required "user" (.record .user),required "is_member" .boolean,
    required "can_send_messages" .boolean,required "can_send_photos" .boolean,
    required "can_send_documents" .boolean,required "can_send_polls" .boolean,
    required "can_send_other_messages" .boolean,required "can_add_web_page_previews" .boolean,
    required "can_change_info" .boolean,required "can_invite_users" .boolean,
    required "can_pin_messages" .boolean,required "can_manage_topics" .boolean,
    required "until_date" .integer]
  | .memberLeft => [tag "status" "left",required "user" (.record .user)]
  | .memberBanned => [
    tag "status" "kicked",required "user" (.record .user),required "until_date" .integer]
  | .chatMemberUpdated => [
    required "chat" (.record .chat),required "from" (.record .user),required "date" .integer,
    required "old_chat_member" (.tagged .chatMember),
    required "new_chat_member" (.tagged .chatMember),
    optional "via_chat_folder_invite_link" .boolean]
  | .menuCommands => [tag "type" "commands"]
  | .menuWebApp => [
    tag "type" "web_app",required "text" .text,required "web_app" (.record .webAppInfo)]
  | .menuDefault => [tag "type" "default"]
  | .scopeDefault => [tag "type" "default"]
  | .scopeAllPrivateChats => [tag "type" "all_private_chats"]
  | .scopeAllGroupChats => [tag "type" "all_group_chats"]
  | .scopeAllChatAdministrators => [tag "type" "all_chat_administrators"]
  | .scopeChat => [tag "type" "chat",required "chat_id" Shape.chatRef]
  | .scopeChatAdministrators => [
    tag "type" "chat_administrators",required "chat_id" Shape.chatRef]
  | .scopeChatMember => [
    tag "type" "chat_member",required "chat_id" Shape.chatRef,required "user_id" .integer]
  | .reactionEmoji => [tag "type" "emoji",required "emoji" .text]
  | .reactionCustomEmoji => [tag "type" "custom_emoji",required "custom_emoji_id" .text]
  | .reactionPaid => [tag "type" "paid"]
  | .messageReactionUpdated => [
    required "chat" (.record .chat),required "message_id" .integer,
    optional "user" (.record .user),optional "actor_chat" (.record .chat),
    required "date" .integer,required "old_reaction" (.listOf (.tagged .reactionType)),
    required "new_reaction" (.listOf (.tagged .reactionType))]
  | .mediaPhoto => [
    tag "type" "photo",required "media" Shape.fileRef,optional "caption" .text,
    optional "parse_mode" .text,optional "caption_entities" Shape.entities,
    optional "has_spoiler" .boolean]
  | .mediaVideo => [
    tag "type" "video",required "media" Shape.fileRef,optional "thumbnail" Shape.fileRef,
    optional "caption" .text,optional "parse_mode" .text,
    optional "caption_entities" Shape.entities,optional "width" .integer,
    optional "height" .integer,optional "duration" .integer,
    optional "supports_streaming" .boolean,optional "has_spoiler" .boolean]
  | .mediaAnimation => [
    tag "type" "animation",required "media" Shape.fileRef,optional "thumbnail" Shape.fileRef,
    optional "caption" .text,optional "parse_mode" .text,optional "width" .integer,
    optional "height" .integer,optional "duration" .integer]
  | .mediaAudio => [
    tag "type" "audio",required "media" Shape.fileRef,optional "thumbnail" Shape.fileRef,
    optional "caption" .text,optional "parse_mode" .text,optional "duration" .integer,
    optional "performer" .text,optional "title" .text]
  | .mediaDocument => [
    tag "type" "document",required "media" Shape.fileRef,optional "thumbnail" Shape.fileRef,
    optional "caption" .text,optional "parse_mode" .text,
    optional "disable_content_type_detection" .boolean]
  | .inlineKeyboardButton => [
    required "text" .text,optional "url" .text,optional "callback_data" .text,
    optional "web_app" (.record .webAppInfo),optional "switch_inline_query" .text]
  | .inlineKeyboardMarkup => [
    required "inline_keyboard" (.listOf (.listOf (.record .inlineKeyboardButton)))]
  | .keyboardButton => [
    required "text" .text,optional "request_contact" .boolean,
    optional "request_location" .boolean,optional "web_app" (.record .webAppInfo)]
  | .replyKeyboardMarkup => [
    required "keyboard" (.listOf (.listOf (.record .keyboardButton))),
    optional "is_persistent" .boolean,optional "resize_keyboard" .boolean,
    optional "one_time_keyboard" .boolean,optional "input_field_placeholder" .text,
    optional "selective" .boolean]
  | .replyKeyboardRemove => [mark "remove_keyboard",optional "selective" .boolean]
  | .forceReply => [
    mark "force_reply",optional "input_field_placeholder" .text,optional "selective" .boolean]
  | .callbackQuery => [
    required "id" .text,required "from" (.record .user),optional "message" (.record .message),
    optional "inline_message_id" .text,required "chat_instance" .text,optional "data" .text]
  | .update => [
    required "update_id" .integer,optional "message" (.record .message),
    optional "edited_message" (.record .message),optional "channel_post" (.record .message),
    optional "edited_channel_post" (.record .message),
    optional "message_reaction" (.record .messageReactionUpdated),
    optional "callback_query" (.record .callbackQuery),
    optional "my_chat_member" (.record .chatMemberUpdated),
    optional "chat_member" (.record .chatMemberUpdated)]
  | .custom _ fields => fields.map fun (name,default) => ⟨name,.text,default.map .text⟩

end RecordKind
end BotGateway
