import BotGateway.Journal.Sink
import BotGateway.Proofs.Journal.Masking
import BotGateway.Proofs.Journal.Timestamps
import BotGateway.Proofs.Json.Controls
import BotGateway.Proofs.Value.Fields
import BotGateway.Proofs.Value.Image

/-! What a line of the journal tells. The names that are set on an event come to be its details, each
once and none of its own; the line of an event then is one document that names nothing twice, with
the standard members first, each of them the event's own, and is read back as it was. -/
namespace BotGateway.Event
open Value (setField lastOfEach lastOfEachSnoc lastOfEachSame imageMember)

structure Orderly (event : Event) : Prop where
  severity : event.severity.Plain
  source : event.source.Plain
  place : event.place.Plain
  function : event.function.Plain
  settled : event.failure = none

def isForeign (detail : Text × Value) : Bool := !isOwn detail.1

section Setting
variable {event : Event} {name : Text} {value : Value} {given : Details}

theorem setOrderly (orderly : event.Orderly) (plain : value.Plain) : (event.set name value).Orderly := by
  obtain ⟨severity,source,place,function,settled⟩ := orderly
  rw [set]
  split
  · exact ⟨severity,source,place,function,settled⟩
  split
  · exact ⟨severity,plain,place,function,settled⟩
  split
  · exact ⟨plain,source,place,function,settled⟩
  split
  · exact ⟨severity,source,place,function,settled⟩
  split
  · exact ⟨severity,source,place,function,settled⟩
  split
  · exact ⟨severity,source,plain,function,settled⟩
  split
  · exact ⟨severity,source,place,plain,settled⟩
  split
  · exact ⟨severity,source,place,function,settled⟩
  split
  · exact ⟨severity,source,place,function,rfl⟩
  · exact ⟨severity,source,place,function,settled⟩

theorem setDetailField (name : Text) (value : Value) (details : Details) :
    setDetail name value details = setField name value details := by
  induction details with
  | nil => rfl
  | cons detail rest ih => rw [setDetail,setField,ih]

theorem setForeign (foreign : isOwn name = false) :
    event.set name value = {event with details := setField name value event.details} := by
  rw [set,foreign,setDetailField]
  rfl

theorem setOwn (own : isOwn name = true) : (event.set name value).details = event.details := by
  rw [set,own]
  simp only [Bool.not_true,Bool.false_eq_true,if_false]
  repeat' split
  all_goals rfl

theorem setAllOrderly (orderly : event.Orderly) (plain : ∀ detail ∈ given, detail.2.Plain) :
    (event.setAll given).Orderly := by
  rw [setAll]
  induction given generalizing event with
  | nil => exact orderly
  | cons detail rest ih =>
    obtain ⟨first,later⟩ := List.forall_mem_cons.mp plain
    exact ih (setOrderly orderly first) later

theorem setDetails (event : Event) (detail : Text × Value) :
    (event.set detail.1 detail.2).details =
      if isForeign detail then setField detail.1 detail.2 event.details else event.details := by
  rw [isForeign]
  cases own : isOwn detail.1 with
  | true => exact setOwn own
  | false =>
    rw [setForeign own]
    rfl

theorem setAllDetails {before : Details} (known : event.details = lastOfEach before) :
    (event.setAll given).details = lastOfEach (before ++ given.filter isForeign) := by
  rw [setAll]
  induction given generalizing event before with
  | nil => rw [List.filter_nil,List.append_nil,List.foldl_nil,known]
  | cons detail rest ih =>
    have step := setDetails event detail
    rw [List.foldl_cons,List.filter_cons]
    cases foreign : isForeign detail with
    | true =>
      rw [foreign,if_pos rfl,known,← lastOfEachSnoc] at step
      rw [ih step,if_pos rfl,List.append_assoc,List.singleton_append]
    | false =>
      rw [foreign,if_neg (by decide),known] at step
      rw [ih step,if_neg (by decide)]

theorem setAllForeign {before : Details} (foreign : ∀ detail ∈ given, isOwn detail.1 = false)
    (known : event.details = lastOfEach before) :
    event.setAll given = {event with details := lastOfEach (before ++ given)} := by
  rw [setAll]
  induction given generalizing event before with
  | nil => rw [List.append_nil,List.foldl_nil,← known]
  | cons detail rest ih =>
    obtain ⟨first,later⟩ := List.forall_mem_cons.mp foreign
    have step : (event.set detail.1 detail.2).details = lastOfEach (before ++ [detail]) := by
      rw [setForeign first,known,lastOfEachSnoc]
    rw [List.foldl_cons,ih later step,setForeign first,List.append_assoc,List.singleton_append]

theorem checkedForeign (checked : Sink.checkDetails given = .ok ()) :
    ∀ detail ∈ given, isOwn detail.1 = false := by
  rw [Sink.checkDetails] at checked
  split at checked
  · cases checked
  · rename_i none
    intro detail inside
    exact Bool.eq_false_of_not_eq_true (List.find?_eq_none.mp none detail inside)

end Setting

def standardMembers (event : Event) (stamp text : Text) : List (Text × Json) :=
  [("timestamp",.text stamp),("level",event.severity.image),("logger",event.source.image),
    ("message",.text text),("module",event.place.image),("func_name",event.function.image)]

def document (event : Event) (stamp text : Text) : List (Text × Json) :=
  event.standardMembers stamp text ++ (shownDetails event.details).map imageMember

structure Complete (event : Event) : Prop extends Orderly event where
  details : ∀ detail ∈ event.details, detail.2.Plain
  apart : (event.details.map (·.1)).Nodup

structure Short (event : Event) : Prop where
  severity : event.severity.hasLongInteger = false
  source : event.source.hasLongInteger = false
  place : event.place.hasLongInteger = false
  function : event.function.hasLongInteger = false
  details : ∀ detail ∈ shownDetails event.details, detail.2.hasLongInteger = false

section Written
variable {event : Event} {stamp text line : Text} {value : Value} {json : Json}

theorem memberPlain (plain : value.Plain) :
    member value = .ok json ↔ value.hasLongInteger = false ∧ json = value.image := by
  rw [member,plain.written]
  cases value.hasLongInteger with
  | true => simp
  | false => exact ⟨fun same => ⟨rfl,(Except.ok.inj same).symm⟩,fun both => congrArg _ both.2.symm⟩

theorem memberShort (plain : value.Plain) (short : value.hasLongInteger = false) :
    member value = .ok value.image := (memberPlain plain).mpr ⟨short,rfl⟩

theorem detailsWritten {details : Details} {members : List (Text × Json)}
    (plain : ∀ detail ∈ details, detail.2.Plain) : detailMembers details = .ok members ↔
      (∀ detail ∈ details, detail.2.hasLongInteger = false) ∧ members = details.map imageMember := by
  induction details generalizing members with
  | nil => exact ⟨fun same => ⟨nofun,(Except.ok.inj same).symm⟩,fun both => congrArg _ both.2.symm⟩
  | cons detail rest ih =>
    obtain ⟨first,later⟩ := List.forall_mem_cons.mp plain
    rw [List.forall_mem_cons,detailMembers]
    constructor
    · intro written
      obtain ⟨json,atFirst,written⟩ := exceptOk.mp written
      obtain ⟨others,atLater,same⟩ := exceptOk.mp written
      cases same
      obtain ⟨shortFirst,same⟩ := (memberPlain first).mp atFirst
      obtain ⟨shortLater,sameLater⟩ := (ih later).mp atLater
      rw [same,sameLater]
      exact ⟨⟨shortFirst,shortLater⟩,rfl⟩
    · intro both
      obtain ⟨⟨shortFirst,shortLater⟩,same⟩ := both
      rw [memberShort first shortFirst,(ih later).mpr ⟨shortLater,rfl⟩,same]
      rfl

namespace Complete

theorem shown (complete : event.Complete) : ∀ detail ∈ shownDetails event.details, detail.2.Plain :=
  fun detail shown => complete.details detail (List.mem_filter.mp shown).1

theorem written (complete : event.Complete) (timed : Timestamp.ofValue event.created = .ok stamp)
    (filled : event.text = .ok text) (short : event.Short) :
    event.members = .ok (event.document stamp text) := by
  have details := (detailsWritten complete.shown).mpr ⟨short.details,rfl⟩
  rw [members,timed,memberShort complete.severity short.severity,
    memberShort complete.source short.source,filled,memberShort complete.place short.place,
    memberShort complete.function short.function,details,complete.settled]
  exact congrArg Except.ok (List.append_nil _)

theorem opened (complete : event.Complete) {found : List (Text × Json)}
    (written : event.members = .ok found) :
    ∃ stamp text, Timestamp.ofValue event.created = .ok stamp ∧ event.text = .ok text ∧ event.Short := by
  obtain ⟨stamp,timed,written⟩ := exceptOk.mp written
  obtain ⟨_,atSeverity,written⟩ := exceptOk.mp written
  obtain ⟨_,atSource,written⟩ := exceptOk.mp written
  obtain ⟨text,filled,written⟩ := exceptOk.mp written
  obtain ⟨_,atPlace,written⟩ := exceptOk.mp written
  obtain ⟨_,atFunction,written⟩ := exceptOk.mp written
  obtain ⟨_,atDetails,_⟩ := exceptOk.mp written
  exact ⟨stamp,text,timed,filled,{
    severity := ((memberPlain complete.severity).mp atSeverity).1
    source := ((memberPlain complete.source).mp atSource).1
    place := ((memberPlain complete.place).mp atPlace).1
    function := ((memberPlain complete.function).mp atFunction).1
    details := ((detailsWritten complete.shown).mp atDetails).1 }⟩

theorem lineExactly (complete : event.Complete) : event.line = .ok line ↔
    ∃ stamp text, Timestamp.ofValue event.created = .ok stamp ∧ event.text = .ok text ∧
      event.Short ∧ (Json.object (event.document stamp text)).write Json.spaced = line := by
  constructor
  · intro written
    obtain ⟨found,made,same⟩ := exceptOk.mp written
    obtain ⟨stamp,text,timed,filled,short⟩ := complete.opened made
    cases Except.ok.inj (made.symm.trans (complete.written timed filled short))
    exact ⟨stamp,text,timed,filled,short,Except.ok.inj same⟩
  · intro made
    obtain ⟨stamp,text,timed,filled,short,same⟩ := made
    rw [Event.line,complete.written timed filled short,← same]
    rfl

theorem namesApart (complete : event.Complete) : ((event.document stamp text).map (·.1)).Nodup := by
  have names : (event.standardMembers stamp text).map (·.1) = standardNames.map Text.ofString := rfl
  have others : ((shownDetails event.details).map imageMember).map (·.1) =
      (shownDetails event.details).map (·.1) := by
    rw [List.map_map]
    rfl
  rw [document,List.map_append,names,others,List.nodup_append]
  apply And.intro (by decide)
  apply And.intro (complete.apart.sublist (List.filter_sublist.map _))
  intro name standard other shown same
  obtain ⟨detail,inside,named⟩ := List.mem_map.mp shown
  have unlisted : (!isStandard detail.1) = true := (List.mem_filter.mp inside).2
  obtain ⟨known,among,spelt⟩ := List.mem_map.mp standard
  have listed : isStandard detail.1 = true :=
    List.any_eq_true.mpr ⟨known,among,beq_iff_eq.mpr (spelt.trans (same.trans named.symm))⟩
  rw [listed] at unlisted
  cases unlisted

theorem lasting (complete : event.Complete) (short : event.Short) :
    Json.Lasting (.object (event.document stamp text)) := by
  apply Json.Lasting.object complete.namesApart
  intro member inside
  simp only [document,standardMembers,List.mem_append,List.mem_cons,List.not_mem_nil,or_false,
    List.mem_map] at inside
  rcases inside with (rfl | rfl | rfl | rfl | rfl | rfl) | ⟨detail,shown,rfl⟩
  · exact .text stamp
  · exact complete.severity.lasting short.severity
  · exact complete.source.lasting short.source
  · exact .text text
  · exact complete.place.lasting short.place
  · exact complete.function.lasting short.function
  · exact (complete.shown detail shown).lasting (short.details detail shown)

end Complete
end Written

def IsControl (c : CodePoint) : Prop := c.val < 0x20 ∨ 0x7F ≤ c.val ∧ c.val < 0xA0

structure Told (line : Text) (document : List (Text × Json)) : Prop where
  read : Json.read? Json.tolerant line = some (.object document)
  apart : (document.map (·.1)).Nodup
  controls : ∀ c, IsControl c →
    (c ∈ line ↔ 0x7F ≤ c.val ∧ c ∈ (Json.object document).texts.flatten)

theorem spacedPlain : Json.spaced.Plain [' '] [' '] := by
  have blank : Json.Blank [(' ' : CodePoint)] := by simp [Json.Blank,Json.isSpace]
  exact ⟨rfl,blank,rfl,blank⟩

theorem writtenTold {document : List (Text × Json)} (lasting : Json.Lasting (.object document)) :
    Told ((Json.object document).write Json.spaced) document where
  read := Json.readWritten spacedPlain lasting nofun
  apart := by
    cases lasting with
    | object apart each => exact apart
  controls := by
    intro c control
    apply Json.writtenForeign lasting
    simp only [Json.isVisible,Bool.and_eq_false_iff,decide_eq_false_iff_not]
    rcases control with below | ⟨above,_⟩
    · exact .inl (Nat.not_le.mpr below)
    · exact .inr (Nat.not_lt.mpr above)

/-- Whatever names are set on an event, it has a line unless it has no time in the calendar, no text
or an integer too long for a numeral. The line has the standard members as the event has them, every
detail under a name of its own, and nothing else. -/
theorem lineTold {base event : Event} {given : Details} (orderly : base.Orderly)
    (bare : base.details = []) (apart : (given.map (·.1)).Nodup)
    (plain : ∀ detail ∈ given, detail.2.Plain) (built : base.setAll given = event) :
    ((∃ line, event.line = .ok line) ↔
      (∃ micros, Timestamp.microseconds? event.created = some micros ∧ Timestamp.InCalendar micros) ∧
      (∃ text, event.text = .ok text) ∧ event.Short) ∧
    (∀ line, event.line = .ok line → ∃ stamp text, Timestamp.ofValue event.created = .ok stamp ∧
      event.text = .ok text ∧ Told line (event.document stamp text)) ∧
    event.details = given.filter isForeign ∧
    (Sink.checkDetails given = .ok () → event = {base with details := given}) := by
  have foreignApart : ((given.filter isForeign).map (·.1)).Nodup :=
    apart.sublist (List.filter_sublist.map _)
  have details : event.details = given.filter isForeign := by
    have set := @setAllDetails base given [] bare
    rw [built,List.nil_append,lastOfEachSame foreignApart] at set
    exact set
  have complete : event.Complete := {
    toOrderly := built ▸ setAllOrderly orderly plain
    details := by
      rw [details]
      exact fun detail inside => plain detail (List.mem_filter.mp inside).1
    apart := details ▸ foreignApart }
  refine ⟨?_,?_,details,?_⟩
  · rw [← Timestamp.timedExactly]
    constructor
    · intro made
      obtain ⟨line,written⟩ := made
      obtain ⟨stamp,text,timed,filled,short,_⟩ := complete.lineExactly.mp written
      exact ⟨⟨stamp,timed⟩,⟨text,filled⟩,short⟩
    · intro ready
      obtain ⟨⟨stamp,timed⟩,⟨text,filled⟩,short⟩ := ready
      exact ⟨_,complete.lineExactly.mpr ⟨stamp,text,timed,filled,short,rfl⟩⟩
  · intro line written
    obtain ⟨stamp,text,timed,filled,short,same⟩ := complete.lineExactly.mp written
    exact ⟨stamp,text,timed,filled,same ▸ writtenTold (complete.lasting short)⟩
  · intro checked
    have set := @setAllForeign base given [] (checkedForeign checked) bare
    rw [built,List.nil_append,lastOfEachSame apart] at set
    exact set

def forged : Details := [("level",.text "FORGED"),("func_name",.null),
  ("a\n\"",.text "x\", \"level\": \"FORGED\n"),("parts",.list [.int 3,.map [(.text "n",.null)]])]

theorem visitOrderly (message : Text) : (visit message []).Orderly :=
  ⟨.text _,.text _,.text _,.text _,rfl⟩

theorem forgedTold : ∃ line, ((visit "50% done" []).setAll forged).line = .ok line ∧ Told line [
    ("timestamp",.text "1970-01-01T00:00:00+00:00"),("level",.text "INFO"),
    ("logger",.text "tgwire"),("message",.text "50% done"),("module",.text "client"),
    ("func_name",.text "call"),("a\n\"",.text "x\", \"level\": \"FORGED\n"),
    ("parts",.array [.int 3,.object [("n",.null)]])] := by
  have parts : (Value.list [.int 3,.map [(.text "n",.null)]]).Plain := by
    have inner : (Value.map [(.text "n",.null)]).Plain :=
      @Value.Plain.map [("n",.null)] (by decide) (by simp [Value.Plain.null])
    exact .list (by simp [inner,Value.Plain.int])
  have plain : ∀ detail ∈ forged, detail.2.Plain := by
    simp [forged,parts,Value.Plain.text,Value.Plain.null]
  obtain ⟨made,told,_⟩ := lineTold (visitOrderly "50% done") rfl (by decide) plain rfl
  obtain ⟨line,written⟩ := made.mpr ⟨⟨0,rfl,by decide,by decide⟩,⟨_,rfl⟩,rfl,rfl,rfl,rfl,by decide⟩
  obtain ⟨stamp,text,timed,filled,tells⟩ := told line written
  cases timed
  cases filled
  exact ⟨line,written,tells⟩

def nextLine : CodePoint := .ofNat 0x85

theorem controlStays : IsControl nextLine ∧ (visit [nextLine] []).Orderly ∧
    (visit [nextLine] []).text = .ok [nextLine] ∧
    ∃ line, (visit [nextLine] []).line = .ok line ∧ nextLine ∈ line :=
  ⟨.inr (by decide),visitOrderly _,rfl,_,rfl,by decide +kernel⟩

end BotGateway.Event
