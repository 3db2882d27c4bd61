import BotGateway.Journal.Line
import BotGateway.Proofs.Journal.Tokens

/-! What the journal shows of a registered token. Masking frees the message and the details that are
text of every token it cannot make up again; a line then shows such a token where a part that is not
masked does, or where an escape in a masked part runs on into it. -/
namespace BotGateway
open Json (Shows Word RunsOn texts memberTexts showsNil showsCons showsAppend)
open Text (Clear)

namespace Redaction
variable {token t : Text} {tokens : List Text}

theorem keptAll (clear : Clear token BotGateway.mask)
    (within : token <:+: tokens.foldl (fun text token => Text.replaceAll token BotGateway.mask text) t) :
    token <:+: t := by
  induction tokens generalizing t with
  | nil => exact within
  | cons first rest ih => exact clear.kept (ih within)

theorem freedAll (clear : Clear token BotGateway.mask) (among : token ∈ tokens) :
    ¬ token <:+: redact ⟨tokens⟩ t := by
  rw [redact]
  induction tokens generalizing t with
  | nil => cases among
  | cons first rest ih =>
    intro within
    rcases List.mem_cons.mp among with rfl | later
    · exact clear.freed 0 (keptAll clear within)
    · exact ih later within

theorem spared (absent : ∀ token ∈ tokens, ¬ token <:+: t) : redact ⟨tokens⟩ t = t := by
  rw [redact]
  induction tokens with
  | nil => rfl
  | cons first rest ih =>
    obtain ⟨here,later⟩ := List.forall_mem_cons.mp absent
    rw [List.foldl_cons,Text.unpatched here]
    exact ih later

theorem addedAmong {redaction : Redaction} :
    token ∈ (redaction.add t).tokens ↔ token ∈ redaction.tokens ∨ token = t ∧ t ≠ [] := by
  rw [add]
  split
  · rename_i skipped
    simp only [Bool.or_eq_true,List.isEmpty_iff,List.contains_iff_mem] at skipped
    constructor
    · exact .inl
    · rintro (known | ⟨rfl,some⟩)
      · exact known
      · exact skipped.resolve_left some
  · rename_i new
    simp only [Bool.or_eq_true,List.isEmpty_iff,not_or] at new
    rw [List.mem_append,List.mem_singleton]
    exact or_congr_right (iff_self_and.mpr fun _ => new.1)

theorem registeredAmong {redaction : Redaction} :
    token ∈ (tokens.foldl add redaction).tokens ↔
      token ∈ redaction.tokens ∨ token ∈ tokens ∧ token ≠ [] := by
  induction tokens generalizing redaction with
  | nil => simp
  | cons first rest ih =>
    rw [List.foldl_cons,ih,addedAmong,List.mem_cons]
    constructor
    · rintro ((known | ⟨rfl,some⟩) | ⟨later,some⟩)
      · exact .inl known
      · exact .inr ⟨.inl rfl,some⟩
      · exact .inr ⟨.inr later,some⟩
    · rintro (known | ⟨rfl | later,some⟩)
      · exact .inl (.inl known)
      · exact .inl (.inr ⟨rfl,some⟩)
      · exact .inr ⟨later,some⟩

end Redaction

namespace Event

def textsOf (value : Value) : List Text :=
  match value.toJson true with
  | .ok json => json.texts
  | .error _ => []

def detailTexts (detail : Text × Value) : List Text := detail.1 :: textsOf detail.2

def openDetail : Text × Value → List Text
  | (name,.text _) => [name]
  | (name,value) => name :: textsOf value

def maskedDetail : Text × Value → List Text
  | (_,.text t) => [t]
  | _ => []

def openTexts (event : Event) : List Text :=
  textsOf event.severity ++ textsOf event.source ++ textsOf event.place ++ textsOf event.function ++
    (shownDetails event.details).flatMap openDetail ++ (event.failure.map failureText).toList

def maskedTexts (event : Event) : List Text :=
  event.message.display :: (shownDetails event.details).flatMap maskedDetail

section Lines
variable {event : Event} {token : Text}

theorem memberShown {value : Value} {json : Json} (written : member value = .ok json) :
    json.texts = textsOf value := by
  rw [member] at written
  rw [textsOf]
  cases given : value.toJson true with
  | ok found =>
    rw [given] at written
    cases written
    rfl
  | error cause =>
    rw [given] at written
    cases written

theorem memberTextsAppend (first second : List (Text × Json)) :
    memberTexts (first ++ second) = memberTexts first ++ memberTexts second := by
  induction first with
  | nil => rfl
  | cons entry rest ih => simp only [List.cons_append,memberTexts,ih,List.append_assoc]

theorem detailsShown {details : Details} {members : List (Text × Json)}
    (written : detailMembers details = .ok members) :
    memberTexts members = details.flatMap detailTexts := by
  induction details generalizing members with
  | nil =>
    cases written
    rfl
  | cons detail rest ih =>
    obtain ⟨json,first,written⟩ := exceptOk.mp written
    obtain ⟨others,later,same⟩ := exceptOk.mp written
    cases same
    rw [memberTexts,memberShown first,ih later,List.flatMap_cons,detailTexts,List.cons_append]

theorem failureShown (word : Word token) (failure : Option Failure) :
    Shows token (memberTexts (failureMembers failure)) ↔
      Shows token (failure.map failureText).toList := by
  cases failure with
  | none => rfl
  | some failure =>
    have name : ¬ token <:+: Json.escape "exc_info" := word.apart (by decide)
    simp [failureMembers,memberTexts,texts,name]

theorem lineShown {line number secret ending : Text} (parts : Token.Parts token number secret ending)
    (written : event.line = .ok line) : ∃ text, event.text = .ok text ∧
      (token <:+: line ↔ Shows token (textsOf event.severity) ∨ Shows token (textsOf event.source) ∨
        token <:+: Json.escape text ∨ Shows token (textsOf event.place) ∨
        Shows token (textsOf event.function) ∨
        Shows token ((shownDetails event.details).flatMap detailTexts) ∨
        Shows token (event.failure.map failureText).toList) := by
  have word := parts.word
  obtain ⟨members,made,same⟩ := exceptOk.mp written
  cases same
  obtain ⟨timestamp,time,made⟩ := exceptOk.mp made
  obtain ⟨severity,atSeverity,made⟩ := exceptOk.mp made
  obtain ⟨source,atSource,made⟩ := exceptOk.mp made
  obtain ⟨text,filled,made⟩ := exceptOk.mp made
  obtain ⟨place,atPlace,made⟩ := exceptOk.mp made
  obtain ⟨function,atFunction,made⟩ := exceptOk.mp made
  obtain ⟨details,atDetails,made⟩ := exceptOk.mp made
  cases made
  have names : ¬ token <:+: Json.escape "timestamp" ∧ ¬ token <:+: Json.escape "level" ∧
      ¬ token <:+: Json.escape "logger" ∧ ¬ token <:+: Json.escape "message" ∧
      ¬ token <:+: Json.escape "module" ∧ ¬ token <:+: Json.escape "func_name" :=
    ⟨word.apart (by decide),word.apart (by decide),word.apart (by decide),word.apart (by decide),
      word.apart (by decide),word.apart (by decide)⟩
  obtain ⟨stamp,level,logger,message,moduleName,name⟩ := names
  have never := Timestamp.showsNoToken time parts
  refine ⟨text,filled,?_⟩
  rw [Json.showsWritten word,texts,memberTextsAppend,memberTextsAppend,showsAppend,showsAppend,
    detailsShown atDetails,failureShown word]
  simp only [memberTexts,texts,List.append_nil,List.cons_append,List.nil_append,showsCons,
    showsAppend,memberShown atSeverity,memberShown atSource,memberShown atPlace,
    memberShown atFunction,stamp,level,logger,message,moduleName,name,never,false_or,or_assoc]

end Lines

section Masked
variable {redaction : Redaction} {event masked : Event} {token : Text}

theorem maskedForm (some : redaction.tokens ≠ []) (masks : redaction.mask event = .ok masked) :
    ∃ text, event.text = .ok text ∧ masked = {event with
      message := .text (redaction.redact text)
      arguments := .null
      details := event.details.map fun (name,value) => (name,redaction.detail value)} := by
  rw [Redaction.mask,if_neg (by simpa using some)] at masks
  obtain ⟨text,filled,same⟩ := exceptOk.mp masks
  cases same
  exact ⟨text,filled,rfl⟩

def maskDetail (redaction : Redaction) (detail : Text × Value) : Text × Value :=
  (detail.1,redaction.detail detail.2)

theorem shownMasked (redaction : Redaction) (details : Details) :
    shownDetails (details.map (maskDetail redaction)) =
      (shownDetails details).map (maskDetail redaction) := by
  rw [shownDetails,List.filter_map]
  rfl

theorem detailShown (detail : Text × Value) :
    Shows token (detailTexts (maskDetail redaction detail)) ↔
      Shows token (openDetail detail) ∨ Shows token (maskedDetail (maskDetail redaction detail)) := by
  obtain ⟨name,value⟩ := detail
  cases value with
  | text t => exact @showsAppend token [name] _
  | _ => exact (or_iff_left showsNil).symm

theorem detailsDivided (details : Details) :
    Shows token ((details.map (maskDetail redaction)).flatMap detailTexts) ↔
      Shows token (details.flatMap openDetail) ∨
        Shows token ((details.map (maskDetail redaction)).flatMap maskedDetail) := by
  induction details with
  | nil => exact (@or_self_iff (Shows token [])).symm
  | cons detail rest ih =>
    simp only [List.map_cons,List.flatMap_cons,showsAppend,ih,detailShown]
    exact or_or_or_comm

theorem maskedRedacted {detail : Text × Value} {t : Text}
    (among : t ∈ maskedDetail (maskDetail redaction detail)) : ∃ whole, t = redaction.redact whole := by
  obtain ⟨name,value⟩ := detail
  cases value with
  | text whole => exact ⟨whole,List.mem_singleton.mp among⟩
  | _ => cases among

theorem showsFreed {texts : List Text} (word : Word token) (freed : ∀ t ∈ texts, ¬ token <:+: t) :
    Shows token texts ↔ ∃ t ∈ texts, RunsOn token t :=
  exists_congr fun t => and_congr_right fun among =>
    ⟨fun within => (word.source within).resolve_left (freed t among),RunsOn.within⟩

end Masked

structure Withheld (order : List Text) (token : Text) (event masked : Event) (line : Text) : Prop where
  spared : ∀ text, event.text = .ok text → (∀ other ∈ order, ¬ other <:+: text) →
    masked.message = .text text
  freed : ∀ t ∈ masked.maskedTexts, ¬ token <:+: t
  shown : token <:+: line ↔
    Shows token event.openTexts ∨ ∃ t ∈ masked.maskedTexts, RunsOn token t

theorem maskedLine {tokens order : List Text} {token line : Text} {event masked : Event}
    (registered : order.Perm (tokens.foldl Redaction.add .empty).tokens) (among : token ∈ tokens)
    (valid : Token.isValid token = true) (apart : Token.Apart token)
    (masks : Redaction.mask ⟨order⟩ event = .ok masked) (written : masked.line = .ok line) :
    Withheld order token event masked line := by
  obtain ⟨number,secret,ending,parts⟩ := Token.partsOf valid
  have word := parts.word
  have member : token ∈ order :=
    registered.mem_iff.mpr (Redaction.registeredAmong.mpr (.inr ⟨among,word.filled⟩))
  have frees (t : Text) : ¬ token <:+: Redaction.redact ⟨order⟩ t :=
    Redaction.freedAll (parts.clear apart) member
  obtain ⟨text,filled,same⟩ := maskedForm (List.ne_nil_of_mem member) masks
  have details : shownDetails masked.details =
      (shownDetails event.details).map (maskDetail ⟨order⟩) := by
    rw [same]
    exact shownMasked ⟨order⟩ event.details
  have freed : ∀ t ∈ masked.maskedTexts, ¬ token <:+: t := by
    intro t inside
    rw [maskedTexts,details,List.mem_cons,List.flatMap_map,List.mem_flatMap] at inside
    rcases inside with rfl | ⟨detail,_,inside⟩
    · rw [same]
      exact frees text
    · obtain ⟨whole,rfl⟩ := maskedRedacted inside
      exact frees whole
  have spared : ∀ other, event.text = .ok other → (∀ token ∈ order, ¬ token <:+: other) →
      masked.message = .text other := by
    intro other filling absent
    obtain rfl := Except.ok.inj (filled.symm.trans filling)
    rw [same,Redaction.spared absent]
  refine ⟨spared,freed,?_⟩
  obtain ⟨shown,fills,shows⟩ := lineShown parts written
  rw [details,detailsDivided] at shows
  rw [same] at fills shows
  cases fills
  rw [shows,← showsFreed word freed,openTexts,maskedTexts,details,same]
  simp only [showsAppend,showsCons]
  exact iff_of_eq (by ac_rfl)

def secret : Text := Text.ofString "1:" ++ List.replicate 35 ('a' : CodePoint)

def meeting : Text := Text.ofString "1:" ++ List.replicate 34 ('a' : CodePoint) ++ [('B' : CodePoint)]

def visit (message : Text) (details : Details) : Event :=
  ⟨.text "tgwire",.text "INFO",.text message,.tuple [],.text "client",.text "call",.int 0,none,
    details⟩

def call : Event := visit (Text.ofString "POST /bot" ++ secret) [("again",.text (secret ++ meeting))]

theorem callWithheld : ∃ masked line, Redaction.mask ⟨[meeting,secret]⟩ call = .ok masked ∧
    masked.line = .ok line ∧ Withheld [meeting,secret] secret call masked line ∧ ¬ secret <:+: line :=
  ⟨_,_,rfl,rfl,@maskedLine [secret,meeting] [meeting,secret] secret _ call _
    (.swap secret meeting []) List.mem_cons_self (by decide +kernel) (by decide +kernel) rfl rfl,
    by decide +kernel⟩

def Leaks (tokens : List Text) (event : Event) : Prop := ∃ masked line,
  Redaction.mask (tokens.foldl Redaction.add .empty) event = .ok masked ∧ masked.line = .ok line ∧
    ∃ token ∈ tokens, token <:+: line

def unmasked : List Event := [
  visit "failed" [("request",.map [(.text "url",.text secret)])],visit "failed" [(secret,.null)],
  {visit "failed" [] with source := .text secret},{visit "failed" [] with severity := .text secret},
  {visit "failed" [] with place := .text secret},{visit "failed" [] with function := .text secret},
  {visit "failed" [] with failure := some (.raised .value secret)}]

/-- The last two are masked: once the mask and what stood before it make up the token again, once
the token begins with the last digit of an escape. -/
theorem someLeak : (∀ token ∈ [secret,meeting], Token.isValid token = true) ∧
    (∀ event ∈ unmasked, Leaks [secret] event) ∧
    Leaks [meeting] (visit (meeting.dropLast ++ meeting) []) ∧
    Leaks [secret] (visit (CodePoint.ofNat 1 :: secret.drop 1) []) := by
  simp only [unmasked,List.forall_mem_cons,List.not_mem_nil,false_imp_iff,implies_true,and_true]
  refine ⟨by decide +kernel,?_,?_,?_⟩
  · refine ⟨?_,?_,?_,?_,?_,?_,?_⟩
    all_goals exact ⟨_,_,rfl,rfl,secret,List.mem_singleton_self _,by decide +kernel⟩
  · exact ⟨_,_,rfl,rfl,meeting,List.mem_singleton_self _,by decide +kernel⟩
  · exact ⟨_,_,rfl,rfl,secret,List.mem_singleton_self _,by decide +kernel⟩

end Event
end BotGateway
