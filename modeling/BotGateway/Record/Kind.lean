import BotGateway.Text.Basic

/-! The kinds of records on the wire, and the closed sets of variants told apart by a tag.
What a record holds is in the schema. -/
namespace BotGateway

inductive RecordKind where
  | envelope
  | user
  | chat
  | messageEntity
  | photoSize
  | document
  | message
  | messageId
  | storedFile
  | responseParameters
  | webhookInfo
  | botCommand
  | webAppInfo
  | memberOwner
  | memberAdministrator
  | memberMember
  | memberRestricted
  | memberLeft
  | memberBanned
  | chatMemberUpdated
  | menuCommands
  | menuWebApp
  | menuDefault
  | scopeDefault
  | scopeAllPrivateChats
  | scopeAllGroupChats
  | scopeAllChatAdministrators
  | scopeChat
  | scopeChatAdministrators
  | scopeChatMember
  | reactionEmoji
  | reactionCustomEmoji
  | reactionPaid
  | messageReactionUpdated
  | mediaPhoto
  | mediaVideo
  | mediaAnimation
  | mediaAudio
  | mediaDocument
  | inlineKeyboardButton
  | inlineKeyboardMarkup
  | keyboardButton
  | replyKeyboardMarkup
  | replyKeyboardRemove
  | forceReply
  | callbackQuery
  | update
  | custom (name : Text) (fields : List (Text × Option Text))
  deriving DecidableEq, Repr

namespace RecordKind

def builtin : List (RecordKind × String) := [
  (.envelope,"APIResponse"),(.user,"User"),(.chat,"Chat"),(.messageEntity,"MessageEntity"),
  (.photoSize,"PhotoSize"),(.document,"Document"),(.message,"Message"),(.messageId,"MessageId"),
  (.storedFile,"File"),(.responseParameters,"ResponseParameters"),(.webhookInfo,"WebhookInfo"),
  (.botCommand,"BotCommand"),(.webAppInfo,"WebAppInfo"),(.memberOwner,"ChatMemberOwner"),
  (.memberAdministrator,"ChatMemberAdministrator"),(.memberMember,"ChatMemberMember"),
  (.memberRestricted,"ChatMemberRestricted"),(.memberLeft,"ChatMemberLeft"),
  (.memberBanned,"ChatMemberBanned"),(.chatMemberUpdated,"ChatMemberUpdated"),
  (.menuCommands,"MenuButtonCommands"),(.menuWebApp,"MenuButtonWebApp"),
  (.menuDefault,"MenuButtonDefault"),(.scopeDefault,"BotCommandScopeDefault"),
  (.scopeAllPrivateChats,"BotCommandScopeAllPrivateChats"),
  (.scopeAllGroupChats,"BotCommandScopeAllGroupChats"),
  (.scopeAllChatAdministrators,"BotCommandScopeAllChatAdministrators"),
  (.scopeChat,"BotCommandScopeChat"),
  (.scopeChatAdministrators,"BotCommandScopeChatAdministrators"),
  (.scopeChatMember,"BotCommandScopeChatMember"),(.reactionEmoji,"ReactionTypeEmoji"),
  (.reactionCustomEmoji,"ReactionTypeCustomEmoji"),(.reactionPaid,"ReactionTypePaid"),
  (.messageReactionUpdated,"MessageReactionUpdated"),(.mediaPhoto,"InputMediaPhoto"),
  (.mediaVideo,"InputMediaVideo"),(.mediaAnimation,"InputMediaAnimation"),
  (.mediaAudio,"InputMediaAudio"),(.mediaDocument,"InputMediaDocument"),
  (.inlineKeyboardButton,"InlineKeyboardButton"),(.inlineKeyboardMarkup,"InlineKeyboardMarkup"),
  (.keyboardButton,"KeyboardButton"),(.replyKeyboardMarkup,"ReplyKeyboardMarkup"),
  (.replyKeyboardRemove,"ReplyKeyboardRemove"),(.forceReply,"ForceReply"),
  (.callbackQuery,"CallbackQuery"),(.update,"Update")]

def name : RecordKind → Text
  | .custom name _ => name
  | kind => ((builtin.lookup kind).getD "" : String)

def ofName? (name : Text) : Option RecordKind :=
  (builtin.find? fun (_,known) => (known : Text) == name).map (·.1)

def markupName? : RecordKind → Option Text
  | .inlineKeyboardMarkup => some "inline_keyboard"
  | .replyKeyboardMarkup => some "reply_keyboard"
  | .replyKeyboardRemove => some "reply_keyboard_remove"
  | .forceReply => some "force_reply"
  | _ => none

end RecordKind

structure VariantSet where
  name : Text
  field : Text
  variants : List (Text × RecordKind)
  deriving DecidableEq, Repr

namespace VariantSet

def chatMember : VariantSet := ⟨"ChatMember","status",[
  ("creator",.memberOwner),("administrator",.memberAdministrator),("member",.memberMember),
  ("restricted",.memberRestricted),("left",.memberLeft),("kicked",.memberBanned)]⟩

def menuButton : VariantSet := ⟨"MenuButton","type",[
  ("commands",.menuCommands),("web_app",.menuWebApp),("default",.menuDefault)]⟩

def botCommandScope : VariantSet := ⟨"BotCommandScope","type",[
  ("default",.scopeDefault),("all_private_chats",.scopeAllPrivateChats),
  ("all_group_chats",.scopeAllGroupChats),
  ("all_chat_administrators",.scopeAllChatAdministrators),("chat",.scopeChat),
  ("chat_administrators",.scopeChatAdministrators),("chat_member",.scopeChatMember)]⟩

def reactionType : VariantSet := ⟨"ReactionType","type",[
  ("emoji",.reactionEmoji),("custom_emoji",.reactionCustomEmoji),("paid",.reactionPaid)]⟩

def inputMedia : VariantSet := ⟨"InputMedia","type",[
  ("photo",.mediaPhoto),("video",.mediaVideo),("animation",.mediaAnimation),
  ("audio",.mediaAudio),("document",.mediaDocument)]⟩

def builtin : List VariantSet := [chatMember,menuButton,botCommandScope,reactionType,inputMedia]

def ofName? (name : Text) : Option VariantSet := builtin.find? (·.name == name)

end VariantSet
end BotGateway
