import BotGateway.Proofs.Client.Call
import BotGateway.Proofs.Request.Contents
import BotGateway.Proofs.Request.PlainNames
import BotGateway.Proofs.Request.Positions
import BotGateway.Proofs.Schema.Media

/-! An album as it is posted. Every local file of it is one part, and in the list of media the place of
the file names that part; remote files are in their places as what they refer to. -/
namespace BotGateway
open Value

namespace Album
open Attachment Prepared

def parameters (chat : Value) (items : List Value) (silent : Value) : Value :=
  .map [(.text "chat_id",chat),(.text "media",.list items),(.text "disable_notification",silent)]

structure Sent (shelf : Shelf) (items : List Value) (files form : List Part)
    (found : List (Trail × InputFile)) (objects : List Json) : Prop where
  apart : ((files ++ form).map (·.name)).Nodup
  fields : ∀ part ∈ form, part.fileName = none
  document : ∃ t, ⟨"media",none,.text t⟩ ∈ form ∧ Json.read? Json.tolerant t = some (.array objects)
  length : objects.length = items.length
  each : ∀ (i : Nat) (item : Value), items[i]? = some item → ∃ members : List (Text × Json),
    objects[i]? = some (.object members) ∧ members.map (·.1) = item.members.map (·.1)
  located : (list items).LocalFiles found
  attached : List.Forall₂ (fun place part => Carries shelf part place.2 ∧
    (Json.array objects).at? place.1 = some (.text (placeholder part.name))) found files
  remote : ∀ trail f, (list items).Within trail (.file f) → f.isLocal = false →
    (Json.array objects).at? trail = some (.text f.remoteRef) ∧ f.remoteRef ≠ [] ∧
      (f.fileId = some f.remoteRef ∨ InputFile.given f.fileId = none ∧ f.url = some f.remoteRef)
  texts : ∀ trail t, (list items).Within trail (.text t) →
    (Json.array objects).at? trail = some (.text t)

variable {chat silent : Value} {items : List Value} {trail : Trail} {f : InputFile}
  {objects : List Json} {files form : List Part}

section Fields

theorem membersNames (chat : Value) (items : List Value) (silent : Value) :
    ((parameters chat items silent).members.map fun member => member.1).Sublist
      Method.sendMediaGroup.parameters := by
  rw [parameters,members,List.map_map]
  exact List.filter_sublist.map fun entry : Value × Value => entry.1.display

theorem fieldsWired (chat : Value) (items : List Value) (silent : Value) :
    (ofParameters (parameters chat items silent)).fields = wiredMembers (parameters chat items silent) := by
  have listed : Method.sendMediaGroup.parameters.Nodup := by decide
  have names : ((wiredMembers (parameters chat items silent)).map (·.1)).Nodup := by
    rw [wiredMembers,List.map_map]
    exact listed.sublist ((List.filter_sublist.map _).trans (membersNames chat items silent))
  exact lastOfEachSame names

theorem fieldNamed {name : Text}
    (member : name ∈ (ofParameters (parameters chat items silent)).fields.map (·.1)) :
    name ∈ Method.sendMediaGroup.parameters := by
  obtain ⟨field,among,_,rfl⟩ := (fieldsNames _ name).mp member
  exact (membersNames chat items silent).subset (List.mem_map_of_mem among)

theorem mediaWired (chat : Value) (items : List Value) (silent : Value) :
    (("media" : Text),(list items).wire ["media"]) ∈
      (ofParameters (parameters chat items silent)).fields := by
  rw [fieldsWired]
  refine List.mem_map.mpr ⟨("media",list items),List.mem_filter.mpr ⟨?_,rfl⟩,rfl⟩
  refine List.mem_map.mpr ⟨(.text "media",list items),List.mem_filter.mpr ⟨?_,rfl⟩,rfl⟩
  exact .tail _ List.mem_cons_self

theorem mediaWritten (written :
      Payload.formParts (ofParameters (parameters chat items silent)).fields = .ok form) :
    ∃ objects, ((list items).wire ["media"]).toJson false = .ok (.array objects) ∧
      ⟨"media",none,.text ((Json.array objects).write Json.compact)⟩ ∈ form := by
  obtain ⟨members,made,rfl⟩ := Payload.formPartsMade written
  obtain ⟨⟨name,json⟩,among,same,media⟩ :=
    (relatedMembers (toJsonEach made)).1 _ (mediaWired chat items silent)
  cases same
  obtain ⟨objects,_,same⟩ := exceptOk.mp media
  cases same
  exact ⟨objects,media,List.mem_map.mpr ⟨_,among,rfl⟩⟩

theorem fieldsPlain {fields : List (Text × Value)} (written : Payload.formParts fields = .ok form) :
    ∀ part ∈ form, part.fileName = none := by
  obtain ⟨members,_,rfl⟩ := Payload.formPartsMade written
  rw [List.forall_mem_map]
  exact fun _ _ => rfl

theorem itemsAttached (chatPlain : chat.Fileless) (silentPlain : silent.Fileless) :
    (ofParameters (parameters chat items silent)).attachments = (list items).attachments ["media"] := by
  have none {value : Value} (plain : value.Fileless) (path : List Text) : value.attachments path = [] :=
    attachmentsNone (fun trail f within => absurd within (plain trail f)) path
  rw [attachmentsFound rfl]
  simp [parameters,Value.attachments,attachmentsOfEntries,display,none chatPlain,none silentPlain]

end Fields

section Ways
variable {names left right : List Text}

theorem wayNoField (long : names ≠ []) (plain : ∀ name ∈ names, underscore ∉ name) :
    nameOf ("media" :: names) ∉ Method.sendMediaGroup.parameters := by
  intro among
  -- no field is called like the media and goes on after an underscore
  have apart : ∀ field ∈ Method.sendMediaGroup.parameters, ∀ more,
      field ≠ ("media" : Text) ++ underscore :: more ∧ ("media" : Text) ≠ field ++ underscore :: more := by
    have listed : Method.sendMediaGroup.parameters =
        [("chat_id" : Text),"media","disable_notification"] := rfl
    simp only [listed,List.forall_mem_cons,List.not_mem_nil,false_imp_iff,implies_true,and_true]
    exact ⟨fun _ => ⟨nofun,nofun⟩,fun _ => ⟨nofun,nofun⟩,fun _ => ⟨nofun,nofun⟩⟩
  have alone : nameOf ("media" :: names) = nameOf [nameOf ("media" :: names)] := rfl
  obtain ⟨_,same⟩ := sameTop (apart _ among) alone
  exact long (plainInjective plain (by simp) same)

theorem wayInjective (plainLeft : ∀ name ∈ left, underscore ∉ name)
    (plainRight : ∀ name ∈ right, underscore ∉ name)
    (same : nameOf ("media" :: left) = nameOf ("media" :: right)) : left = right := by
  rw [nameOfBelow,nameOfBelow _ right] at same
  exact plainInjective plainLeft plainRight (List.append_cancel_left same)

end Ways

section Media
variable (media : ∀ item ∈ items, Fits (.tagged .inputMedia) item)
include media

theorem itemsKeyed : (list items).Keyed := (Fits.listOf media).keyed (by decide)

theorem plainWay (within : (list items).Within trail (.file f)) :
    trail.names ≠ [] ∧ ∀ name ∈ trail.names, underscore ∉ name := by
  cases within with
  | @inside _ i step child rest _ placed next =>
    rw [children,List.getElem?_mapIdx] at placed
    obtain ⟨item,listed,same⟩ := Option.map_eq_some_iff.mp placed
    cases same
    obtain ⟨j,name,rfl,called⟩ := (media _ (List.mem_of_getElem? listed)).mediaFile next
    have plain : underscore ∉ name := by
      rcases called with rfl | rfl <;> decide
    exact ⟨List.cons_ne_nil _ _,List.forall_mem_cons.mpr
      ⟨Numeral.noUnderscore i,List.forall_mem_singleton.mpr plain⟩⟩

theorem namesDiffer {found : List (Trail × InputFile)} (located : (list items).LocalFiles found) :
    ((attach ["media"] found).map (·.partName) ++
      (ofParameters (parameters chat items silent)).fields.map (·.1)).Nodup := by
  refine List.nodup_append.mpr ⟨?_,lastOfEachNodup _,?_⟩
  · refine (attachNamesNodup located _).mpr fun a left b right same => ?_
    obtain ⟨_,aWithin⟩ := located.exact.mp left
    obtain ⟨_,bWithin⟩ := located.exact.mp right
    have names := wayInjective (plainWay media aWithin).2 (plainWay media bWithin).2 same
    exact (itemsKeyed media).sameTrail aWithin bWithin names
  · intro name left field right same
    obtain ⟨attachment,attaches,rfl⟩ := List.mem_map.mp left
    obtain ⟨⟨trail,f⟩,entry,rfl⟩ := List.mem_map.mp attaches
    obtain ⟨_,within⟩ := located.exact.mp entry
    obtain ⟨long,plain⟩ := plainWay media within
    have called := fieldNamed right
    rw [← same] at called
    exact wayNoField long plain called

section Written
variable (written : ((list items).wire ["media"]).toJson false = .ok (.array objects))
include written

theorem itemWritten : objects.length = items.length ∧
    ∀ (i : Nat) (item : Value), items[i]? = some item → ∃ members : List (Text × Json),
      objects[i]? = some (.object members) ∧ members.map (·.1) = item.members.map (·.1) := by
  obtain ⟨_,listed,same⟩ := exceptOk.mp written
  cases same
  have forms := itemsForm listed
  refine ⟨by simpa using forms.length_eq.symm,fun i item placed => ?_⟩
  have child : (items.mapIdx fun i item => (Numeral.ofNat (0 + i),item))[i]? =
      some (Numeral.ofNat (0 + i),item) := by
    rw [List.getElem?_mapIdx,placed]
    rfl
  obtain ⟨json,stands,form⟩ := relatedAt forms child
  cases media item (List.mem_of_getElem? placed) with
  | @tagged _ tag kind fields variant fits =>
    have wire := (VariantSet.builtinShows (by decide) variant).wire
    obtain ⟨members,written,rfl⟩ := recordWritten.mp form
    exact ⟨members,stands,(recordForms (fits.namesApart wire) written).1⟩

theorem fileWritten (within : (list items).Within trail (.file f)) :
    (Json.array objects).at? trail = some (.text (reference ("media" :: trail.names) f)) := by
  obtain ⟨part,stands,same⟩ := writtenAt (itemsKeyed media) within written
  cases same
  exact stands

theorem textWritten {t : Text} (within : (list items).Within trail (.text t)) :
    (Json.array objects).at? trail = some (.text t) := by
  obtain ⟨part,stands,same⟩ := writtenAt (itemsKeyed media) within written
  cases same
  exact stands

theorem mediaRead :
    Json.read? Json.tolerant ((Json.array objects).write Json.compact) = some (.array objects) :=
  Json.readWritten Json.compactPlain ((Fits.listOf media).lasting (by decide) written)
    (by rintro _ ⟨⟩)

end Written

theorem partsSent {scene after : Scene Shelf} (chatPlain : chat.Fileless)
    (silentPlain : silent.Fileless)
    (read : (parts [] (ofParameters (parameters chat items silent)).attachments).perform scene =
      (.ok files,after))
    (written : Payload.formParts (ofParameters (parameters chat items silent)).fields = .ok form) :
    ∃ found objects, Sent scene.world items files form found objects := by
  obtain ⟨found,located,along⟩ := attachmentsAlong (list items)
  obtain ⟨objects,listed,among⟩ := mediaWritten written
  obtain ⟨length,each⟩ := itemWritten media listed
  rw [itemsAttached chatPlain silentPlain,along] at read
  refine ⟨found,objects,?_,fieldsPlain written,⟨_,among,mediaRead media listed⟩,length,each,located,
    ?_,?_,fun trail t within => textWritten media listed within⟩
  · rw [List.map_append,partsNames read,Payload.formPartsNames written]
    exact namesDiffer media located
  · have stands : ∀ place ∈ found, (Json.array objects).at? place.1 =
        some (.text (placeholder (nameOf ("media" :: place.1.names)))) := by
      rintro ⟨trail,f⟩ member
      obtain ⟨isLocal,within⟩ := located.exact.mp member
      rw [fileWritten media listed within,reference,if_pos isLocal]
    have carried := List.forall₂_map_left_iff.mp (partsOnCarry (partsRead read))
    refine ((List.forall₂_and_left found files).mpr ⟨stands,carried⟩).imp ?_
    rintro place part ⟨shown,named,carries⟩
    refine ⟨carries,shown.trans ?_⟩
    rw [named]
    rfl
  · intro trail f within remote
    refine ⟨?_,InputFile.remoteRefGiven remote⟩
    rw [fileWritten media listed within,reference,remote]
    rfl

end Media

theorem albumPosted {client : Client} {places : List Value} {named : List (Text × Value)}
    {scene : Scene Outside} {payload : Payload} {after : Scene Shelf}
    (bound : Method.sendMediaGroup.bind places named = .ok (parameters chat items silent))
    (chatPlain : chat.Fileless) (silentPlain : silent.Fileless)
    (media : ∀ item ∈ items, Fits (.tagged .inputMedia) item)
    (having : ∃ trail f, f.isLocal ∧ (list items).Within trail (.file f))
    (encoded : (Payload.encode client.boundary (parameters chat items silent)).perform
      ⟨scene.journal,scene.world.shelf⟩ = (.ok payload,after)) :
    ((client.invoke .sendMediaGroup places named).perform scene).2.world.line.sent =
      scene.world.line.sent ++ [client.post Method.sendMediaGroup.endpoint payload] ∧
    payload.contentType = Multipart.contentType client.boundary ∧
    ∃ files form found objects,
      Multipart.encodeParts client.boundary (files ++ form) = .ok payload.body ∧
      Sent scene.world.shelf items files form found objects := by
  have attached : (ofParameters (parameters chat items silent)).attachments ≠ [] := by
    obtain ⟨trail,f,isLocal,within⟩ := having
    obtain ⟨found,located,along⟩ := attachmentsAlong (list items)
    rw [itemsAttached chatPlain silentPlain,along]
    exact List.ne_nil_of_mem (List.mem_map_of_mem (located.exact.mpr ⟨isLocal,within⟩))
  have prepared := encoded
  rw [Payload.encodeShown (Payload.encodedShown encoded)] at prepared
  obtain ⟨files,form,mid,read,written,body,multipart⟩ := Payload.encodedParts attached prepared
  obtain ⟨found,objects,sent⟩ := partsSent media chatPlain silentPlain read written
  refine ⟨?_,multipart,files,form,found,objects,body,sent⟩
  obtain ⟨journal,ends⟩ := Client.callSent encoded
  rw [Client.invoke,bound]
  dsimp only
  rw [ends]
  rfl

def cover : InputFile := ⟨none,none,some ⟨0,"NamedBytes",⟨"a.png","'a.png'",false⟩⟩⟩

def photo : List (Text × Value) := [("type",.text "photo"),("media",.file cover),
  ("caption",.text "\"attach://\""),("parse_mode",.null),("caption_entities",.null),("has_spoiler",.null)]

def clip : List (Text × Value) := [("type",.text "document"),("media",.file ⟨some "id",none,none⟩),
  ("thumbnail",.file cover),("caption",.null),("parse_mode",.null),
  ("disable_content_type_detection",.null)]

theorem photoFits : Fits (.record .mediaPhoto) (.record .mediaPhoto photo) := by
  have given : Built (.map [(.text "media",.file cover),(.text "caption",.text "\"attach://\"")]) := by
    refine .map (List.forall_mem_cons.mpr ⟨.file _,List.forall_mem_singleton.mpr (.text _)⟩)
  exact (Built.record given rfl).fits rfl

theorem clipFits : Fits (.record .mediaDocument) (.record .mediaDocument clip) := by
  have given : Built (.map [(.text "media",.file ⟨some "id",none,none⟩),
      (.text "thumbnail",.file cover)]) := by
    refine .map (List.forall_mem_cons.mpr ⟨.file _,List.forall_mem_singleton.mpr (.file _)⟩)
  exact (Built.record given rfl).fits rfl

theorem holidayPosted :
    let items : List Value := [.record .mediaPhoto photo,.record .mediaDocument clip]
    let client : Client := ⟨"1:t","u",.null,"B"⟩
    let scene : Scene Outside :=
      ⟨.empty,[(0,.buffered ⟨ascii "1",0⟩)],⟨[],.failed (.raised .network "down"),[]⟩⟩
    ∃ payload, ((client.invoke .sendMediaGroup [.int 42] [("media",.list items)]).perform
        scene).2.world.line.sent = [client.post Method.sendMediaGroup.endpoint payload] ∧
    ∃ files form found objects, Multipart.encodeParts "B" (files ++ form) = .ok payload.body ∧
      Sent scene.world.shelf items files form found objects := by
  intro items client scene
  have photoListed : (("photo" : Text),RecordKind.mediaPhoto) ∈ VariantSet.inputMedia.variants := by
    decide
  have clipListed : (("document" : Text),RecordKind.mediaDocument) ∈
      VariantSet.inputMedia.variants := by decide
  have media : ∀ item ∈ items, Fits (.tagged .inputMedia) item :=
    List.forall_mem_cons.mpr ⟨.tagged photoListed photoFits,
      List.forall_mem_singleton.mpr (.tagged clipListed clipFits)⟩
  have chatPlain : (Value.int 42).Fileless := (Fits.integer 42).fileless rfl
  have silentPlain : Value.null.Fileless := (Fits.absent .boolean).fileless rfl
  have within : (list items).Within [(0,Numeral.ofNat 0),(1,"media")] (.file cover) :=
    .inside rfl (.inside rfl (.here _))
  have bound : Method.sendMediaGroup.bind [.int 42] [("media",.list items)] =
      .ok (parameters (.int 42) items .null) := rfl
  obtain ⟨payload,after,encoded⟩ : ∃ payload after, (Payload.encode client.boundary
      (parameters (.int 42) items .null)).perform ⟨scene.journal,scene.world.shelf⟩ =
        (.ok payload,after) := ⟨_,_,rfl⟩
  obtain ⟨posted,_,parts⟩ :=
    albumPosted bound chatPlain silentPlain media ⟨_,cover,rfl,within⟩ encoded
  exact ⟨payload,posted,parts⟩

end Album
end BotGateway
