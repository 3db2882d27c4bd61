import BotGateway.Proofs.Request.LocalFiles
import BotGateway.Proofs.Request.Prepared
import BotGateway.Proofs.Request.Readers

/-! Readings during one request. Each source is read at most once, where it first comes up among the
files, and every part made from it carries what it gave then. -/
namespace BotGateway
open BotGateway.Action

structure Reading where
  handle : Nat
  gave : Except Failure Value

structure Recorded (world : Type) where
  readings : List Reading
  world : world

namespace Recorded
variable {world : Type}

def unseen (action : Action world α) : Action (Recorded world) α :=
  within Recorded.world (fun world recorded => {recorded with world := world}) action

def record (reading : Reading) : Action (Recorded world) Unit :=
  change fun recorded => {recorded with readings := recorded.readings ++ [reading]}

end Recorded

def Scene.recording {world : Type} (scene : Scene world) : Scene (Recorded world) :=
  ⟨scene.journal,[],scene.world⟩

namespace Reader
variable {world : Type}

def recorded (reader : Reader world) : Reader (Recorded world) :=
  ⟨fun source => Recorded.unseen (reader.rewind source),
  fun source => do
    let gave ← outcome (Recorded.unseen (reader.read source))
    Recorded.record ⟨source.handle,gave⟩
    MonadExcept.ofExcept gave⟩

variable {reader : Reader world} {contents : Contents} {attachments rest : List Attachment}
  {attachment : Attachment} {source : Source} {raw : Bytes}

theorem readRecorded (reader : Reader world) (source : Source) (scene : Scene (Recorded world)) :
    (reader.recorded.read source).perform scene =
      let (gave,after) := (reader.read source).perform ⟨scene.journal,scene.world.world⟩
      (gave,⟨after.journal,scene.world.readings ++ [⟨source.handle,gave⟩],after.world⟩) := by
  simp only [recorded,Recorded.unseen,Recorded.record,perform_bind,perform_outcome,perform_within,
    perform_change,perform_ofExcept]

theorem takenShows (reader : Reader world) (source : Source) :
    Shows Recorded.world (reader.recorded.taken source) (reader.taken source) := by
  refine Shows.bind (fun _ => ⟨rfl,rfl⟩) fun _ scene => ?_
  rw [readRecorded]
  exact ⟨rfl,rfl⟩

theorem contentShows (reader : Reader world) (part : Text) (source : Source) :
    Shows Recorded.world (reader.recorded.content part source) (reader.content part source) := by
  refine (takenShows reader source).outcome.bind fun gave => ?_
  cases gave with
  | ok value =>
    dsimp only
    cases Attachment.bytesOfRead part value with
    | ok raw => exact .pure raw
    | error failure => exact .throw failure
  | error failure => exact .throw _

theorem partsShows (reader : Reader world) (contents : Contents) (attachments : List Attachment) :
    Shows Recorded.world (reader.recorded.parts contents attachments)
      (reader.parts contents attachments) := by
  induction attachments generalizing contents with
  | nil => exact .pure _
  | cons attachment rest ih =>
    unfold parts
    cases attachment.file.content with
    | none => exact .throw _
    | some source =>
      refine Shows.bind ?_ fun raw => (ih _).bind fun others => .pure _
      unfold contentOf
      cases contents.lookup source.handle with
      | some raw => exact .pure raw
      | none => exact contentShows reader attachment.partName source

theorem encodeShows (reader : Reader world) (boundary : Text) (parameters : Value) :
    Shows Recorded.world (reader.recorded.encode boundary parameters)
      (reader.encode boundary parameters) := by
  unfold encode send
  cases parameters.hasLongKey with
  | true => exact .throw _
  | false =>
    cases (Prepared.ofParameters parameters).attachments.isEmpty with
    | true =>
      simp only [Bool.false_eq_true,if_true,if_false]
      cases Payload.encodeDocument (Prepared.ofParameters parameters).document with
      | ok body => exact .pure _
      | error cause => exact .throw _
    | false =>
      simp only [Bool.false_eq_true,if_false]
      refine Shows.bind (partsShows reader [] _) fun files => ?_
      cases Payload.encodeMultipart boundary files (Prepared.ofParameters parameters).fields with
      | ok body => exact Shows.bind (.note _ _ _) fun _ => .pure _
      | error cause => exact .throw _

end Reader

def Value.Spells (value : Value) (raw : Bytes) : Prop :=
  value = .bytes raw ∨ ∃ t, value = .text t ∧ Utf8.encode t = .ok raw

namespace Attachment

def handles (attachments : List Attachment) : List Nat :=
  attachments.filterMap fun attachment => attachment.file.content.map Source.handle

def unread (contents : Contents) (attachments : List Attachment) : List Nat :=
  ((handles attachments).filter fun handle => (contents.lookup handle).isNone).eraseDups

structure Filled (readings : List Reading) (attachment : Attachment) (part : Part) : Prop where
  name : part.name = attachment.partName
  fileName : part.fileName = some attachment.file.filename
  content : ∃ source value raw, attachment.file.content = some source ∧
    ⟨source.handle,.ok value⟩ ∈ readings ∧ value.Spells raw ∧ part.data = .bytes raw

variable {contents : Contents} {attachment : Attachment} {rest : List Attachment} {source : Source}

theorem readSpells {part : Text} {value : Value} {raw : Bytes}
    (read : bytesOfRead part value = .ok raw) : value.Spells raw := by
  cases value with
  | bytes held =>
    cases read
    exact .inl rfl
  | text t =>
    simp only [bytesOfRead] at read
    split at read
    · rename_i encoded
      cases read
      exact .inr ⟨t,rfl,encoded⟩
    · cases read
  | _ => cases read

theorem handlesHeld (held : attachment.file.content = some source) :
    handles (attachment :: rest) = source.handle :: handles rest := by
  simp [handles,held]

theorem keptOrNot (source : Source) (raw : Bytes) (rest : List Attachment) :
    unread ((source.handle,raw) :: contents) rest =
      (((handles rest).filter fun handle => (contents.lookup handle).isNone).filter
        fun handle => !handle == source.handle).eraseDups := by
  rw [unread,List.filter_filter]
  congr 2
  funext handle
  rw [List.lookup_cons]
  cases handle == source.handle <;> simp

theorem unreadFresh (held : attachment.file.content = some source)
    (fresh : contents.lookup source.handle = none) (raw : Bytes) :
    unread contents (attachment :: rest) =
      source.handle :: unread ((source.handle,raw) :: contents) rest := by
  rw [keptOrNot,unread,handlesHeld held,List.filter_cons_of_pos (by simp [fresh]),
    List.eraseDups_cons]

theorem unreadKept (held : attachment.file.content = some source) {raw : Bytes}
    (kept : contents.lookup source.handle = some raw) :
    unread contents (attachment :: rest) = unread ((source.handle,raw) :: contents) rest := by
  rw [keptOrNot,unread,handlesHeld held,List.filter_cons_of_neg (by simp [kept]),
    List.filter_filter]
  congr 2
  funext handle
  cases same : handle == source.handle with
  | true => simp [eq_of_beq same,kept]
  | false => simp

theorem firstsNodup (handles : List Nat) : handles.eraseDups.Nodup := by
  cases handles with
  | nil => exact List.nodup_nil
  | cons handle rest =>
    rw [List.eraseDups_cons,List.nodup_cons,List.mem_eraseDups]
    exact ⟨by simp,firstsNodup (rest.filter fun other => !other == handle)⟩
termination_by handles.length
decreasing_by
  have shorter := List.length_filter_le (fun other => !other == handle) rest
  simp only [List.length_cons]
  omega

end Attachment

namespace Reader
open Attachment

theorem nothingMade {α : Type} {failure : Failure} {p : α → Prop} :
    ∀ a, (.error failure : Except Failure α) = .ok a → p a := by
  intro a made
  cases made

variable {world : Type} {reader : Reader world} {contents : Contents} {attachments : List Attachment}
  {scene : Scene (Recorded world)}

theorem contentTaken (reader : Reader world) (part : Text) (source : Source)
    (scene : Scene (Recorded world)) :
    let ran := (reader.recorded.content part source).perform scene
    (∃ failure, ran.1 = .error failure ∧ ran.2.world.readings = scene.world.readings) ∨
      ∃ gave, ran.2.world.readings = scene.world.readings ++ [⟨source.handle,gave⟩] ∧
        ∀ raw, ran.1 = .ok raw → ∃ value, gave = .ok value ∧ value.Spells raw := by
  have rewound : (reader.recorded.rewind source).perform scene =
      let (ended,after) := (reader.rewind source).perform ⟨scene.journal,scene.world.world⟩
      (ended,⟨after.journal,scene.world.readings,after.world⟩) := rfl
  simp only [content,taken,perform_bind,perform_outcome,rewound]
  cases (reader.rewind source).perform ⟨scene.journal,scene.world.world⟩ with
  | mk ended after =>
    cases ended with
    | error failure => exact .inl ⟨_,rfl,rfl⟩
    | ok =>
      dsimp only
      rw [readRecorded]
      cases (reader.read source).perform ⟨after.journal,after.world⟩ with
      | mk gave last =>
        cases gave with
        | error failure => exact .inr ⟨_,rfl,nothingMade⟩
        | ok value =>
          dsimp only
          rw [perform_ofExcept]
          exact .inr ⟨_,rfl,fun raw read => ⟨value,rfl,readSpells read⟩⟩

def Kept (contents : Contents) (readings : List Reading) : Prop :=
  ∀ {handle raw}, contents.lookup handle = some raw →
    ∃ value, ⟨handle,.ok value⟩ ∈ readings ∧ value.Spells raw

theorem Kept.more {readings : List Reading} {handle : Nat} {value : Value} {raw : Bytes}
    (kept : Kept contents readings) (read : ⟨handle,.ok value⟩ ∈ readings) (spells : value.Spells raw) :
    Kept ((handle,raw) :: contents) readings := by
  intro other held found
  rw [List.lookup_cons] at found
  split at found
  · rename_i same
    cases found
    exact ⟨value,eq_of_beq same ▸ read,spells⟩
  · exact kept found

theorem Kept.longer {readings : List Reading} (kept : Kept contents readings) (more : List Reading) :
    Kept contents (readings ++ more) := by
  intro handle raw found
  obtain ⟨value,read,spells⟩ := kept found
  exact ⟨value,List.mem_append_left _ read,spells⟩

def ReadsDue (due : List Nat) (attachments : List Attachment) (before : List Reading)
    (ran : Except Failure (List Part) × Scene (Recorded world)) : Prop :=
  ∃ readings, ran.2.world.readings = before ++ readings ∧ readings.map Reading.handle <+: due ∧
    ∀ files, ran.1 = .ok files → readings.map Reading.handle = due ∧
      List.Forall₂ (Filled ran.2.world.readings) attachments files

variable {due : List Nat} {before : List Reading} {attachment : Attachment} {source : Source}
  {value : Value} {raw : Bytes} {ran : Except Failure (List Part) × Scene (Recorded world)}

theorem ReadsDue.afterReading {gave : Except Failure Value}
    (later : ReadsDue due attachments (before ++ [⟨source.handle,gave⟩]) ran) :
    ReadsDue (source.handle :: due) attachments before ran := by
  obtain ⟨readings,all,among,filled⟩ := later
  refine ⟨⟨source.handle,gave⟩ :: readings,by rw [all,List.append_assoc]; rfl,?_,?_⟩
  · exact (List.prefix_cons_inj _).mpr among
  · intro files made
    obtain ⟨whole,parts⟩ := filled files made
    exact ⟨by rw [List.map_cons,whole],parts⟩

theorem ReadsDue.withPart (held : attachment.file.content = some source)
    (read : ⟨source.handle,.ok value⟩ ∈ scene.world.readings) (spells : value.Spells raw)
    (later : ReadsDue due attachments scene.world.readings
      ((reader.recorded.parts contents attachments).perform scene)) :
    ReadsDue due (attachment :: attachments) scene.world.readings
      ((reader.recorded.parts contents attachments >>= fun others =>
        pure (filePart attachment raw :: others)).perform scene) := by
  obtain ⟨readings,all,among,filled⟩ := later
  rw [bind_pure_comp,perform_map]
  refine ⟨readings,all,among,fun files made => ?_⟩
  cases result : ((reader.recorded.parts contents attachments).perform scene).1 with
  | error failure => simp [result,Except.map] at made
  | ok others =>
    obtain ⟨whole,parts⟩ := filled others result
    rw [result] at made
    cases made
    refine ⟨whole,.cons ⟨rfl,rfl,source,value,raw,held,?_,spells,rfl⟩ parts⟩
    rw [all]
    exact List.mem_append_left _ read

theorem partsReadDue (kept : Kept contents scene.world.readings) :
    ReadsDue (unread contents attachments) attachments scene.world.readings
      ((reader.recorded.parts contents attachments).perform scene) := by
  induction attachments generalizing contents scene with
  | nil => exact ⟨[],by rw [List.append_nil]; rfl,List.nil_prefix,fun files made => by
      cases made
      exact ⟨rfl,.nil⟩⟩
  | cons attachment rest ih =>
    cases held : attachment.file.content with
    | none =>
      rw [parts,held]
      exact ⟨[],(List.append_nil _).symm,List.nil_prefix,nothingMade⟩
    | some source =>
      rw [parts,held]
      dsimp only
      cases known : contents.lookup source.handle with
      | some raw =>
        obtain ⟨value,read,spells⟩ := kept known
        rw [contentOf,known,unreadKept held known]
        exact (ih (kept.more read spells)).withPart held read spells
      | none =>
        rw [contentOf,known,perform_bind]
        dsimp only
        have step := contentTaken reader attachment.partName source scene
        generalize (reader.recorded.content attachment.partName source).perform scene = first at step
        obtain ⟨result,after⟩ := first
        obtain ⟨failure,failed,same⟩ | ⟨gave,written,taken⟩ := step
        · cases failed
          exact ⟨[],same.trans (List.append_nil _).symm,List.nil_prefix,nothingMade⟩
        · cases result with
          | error failure =>
            refine ⟨[_],written,?_,nothingMade⟩
            rw [unreadFresh held known []]
            exact (List.prefix_cons_inj _).mpr List.nil_prefix
          | ok raw =>
            obtain ⟨value,rfl,spells⟩ := taken raw rfl
            dsimp only at written
            have read : ⟨source.handle,.ok value⟩ ∈ after.world.readings := by simp [written]
            have keeps : Kept contents after.world.readings := written ▸ kept.longer _
            have later := (ih (keeps.more read spells)).withPart held read spells
            rw [unreadFresh held known raw]
            exact (written ▸ later).afterReading

theorem sendParts (reader : Reader world) (boundary : Text) (scene : Scene world) {prepared : Prepared}
    (having : prepared.attachments ≠ []) :
    let read := (reader.parts [] prepared.attachments).perform scene
    let sent := (reader.send boundary prepared).perform scene
    sent.2.world = read.2.world ∧ ∀ payload, sent.1 = .ok payload → ∃ files form,
      read.1 = .ok files ∧ Payload.formParts prepared.fields = .ok form ∧
      Multipart.encodeParts boundary (files ++ form) = .ok payload.body := by
  unfold send
  rw [if_neg (by simpa using having),perform_bind]
  rcases (reader.parts [] prepared.attachments).perform scene with ⟨failure | files,after⟩
  · exact ⟨rfl,nothingMade⟩
  · unfold Payload.encodeMultipart
    dsimp only
    cases written : Payload.formParts prepared.fields with
    | error cause => exact ⟨rfl,nothingMade⟩
    | ok form =>
      dsimp only
      cases encoded : Multipart.encodeParts boundary (files ++ form) with
      | error found => exact ⟨rfl,nothingMade⟩
      | ok body =>
        refine ⟨rfl,fun payload sent => ?_⟩
        cases sent
        exact ⟨files,form,rfl,rfl,encoded⟩

structure ReadsOnce (boundary : Text) (parameters : Value) (readings : List Reading)
    (result : Except Failure Payload) : Prop where
  once : (readings.map Reading.handle).Nodup
  inOrder : readings.map Reading.handle <+:
    (handles (Prepared.ofParameters parameters).attachments).eraseDups
  filled : ∀ payload, result = .ok payload → (Prepared.ofParameters parameters).attachments ≠ [] →
    readings.map Reading.handle =
      (handles (Prepared.ofParameters parameters).attachments).eraseDups ∧
    ∃ files form, List.Forall₂ (Filled readings) (Prepared.ofParameters parameters).attachments files ∧
      Payload.formParts (Prepared.ofParameters parameters).fields = .ok form ∧
      Multipart.encodeParts boundary (files ++ form) = .ok payload.body

theorem unreadAll (attachments : List Attachment) :
    unread [] attachments = (handles attachments).eraseDups := by
  simp [unread]

theorem sendReadsOnce (reader : Reader world) (boundary : Text) (scene : Scene world)
    {parameters : Value} :
    let ran := (reader.recorded.send boundary (.ofParameters parameters)).perform scene.recording
    ReadsOnce boundary parameters ran.2.world.readings ran.1 := by
  by_cases none : (Prepared.ofParameters parameters).attachments = []
  · have unread : ((reader.recorded.send boundary (.ofParameters parameters)).perform
        scene.recording).2 = scene.recording := by
      rw [send,if_pos (by simp [none])]
      cases Payload.encodeDocument (Prepared.ofParameters parameters).document <;> rfl
    dsimp only
    rw [unread]
    exact ⟨List.nodup_nil,List.nil_prefix,fun payload sent having => absurd none having⟩
  · obtain ⟨same,parts⟩ := sendParts reader.recorded boundary scene.recording none
    have kept : Kept [] scene.recording.world.readings := by
      intro handle raw found
      cases found
    have due : ReadsDue (unread [] (Prepared.ofParameters parameters).attachments) _ _
      ((reader.recorded.parts [] (Prepared.ofParameters parameters).attachments).perform scene.recording) :=
      partsReadDue kept
    obtain ⟨readings,all,among,filled⟩ := due
    rw [unreadAll] at among filled
    dsimp only
    rw [same,all]
    refine ⟨(firstsNodup _).sublist among.sublist,among,fun payload sent _ => ?_⟩
    obtain ⟨files,form,read,written,encoded⟩ := parts payload sent
    obtain ⟨whole,made⟩ := filled files read
    exact ⟨whole,files,form,all ▸ made,written,encoded⟩

/-- A request reads each of its sources at most once, in the order in which they first come up among
its local files, whatever reading one does. A part carries what the only reading of its source gave. -/
theorem readOnce (reader : Reader world) (boundary : Text) (parameters : Value) (scene : Scene world) :
    let ran := (reader.recorded.encode boundary parameters).perform scene.recording
    (reader.encode boundary parameters).perform scene =
        (ran.1,⟨ran.2.journal,ran.2.world.world⟩) ∧
      onShelf.encode boundary parameters = Payload.encode boundary parameters ∧
      ReadsOnce boundary parameters ran.2.world.readings ran.1 ∧
      (parameters.isParameters → ∃ found, parameters.LocalFiles found ∧
        (Prepared.ofParameters parameters).attachments = Value.attach [] found) := by
  obtain ⟨result,after⟩ := encodeShows reader boundary parameters scene.recording
  refine ⟨Prod.ext result.symm after.symm,encodeOnShelf boundary parameters,?_,fun given => ?_⟩
  · unfold encode
    cases parameters.hasLongKey with
    | true => exact ⟨List.nodup_nil,List.nil_prefix,nothingMade⟩
    | false => exact sendReadsOnce reader boundary scene
  · obtain ⟨found,files,attached⟩ := Value.attachmentsAlong parameters
    exact ⟨found,files,(Prepared.attachmentsFound given).trans (attached [])⟩

def bundle : Value :=
  let stream : Value := .file ⟨none,none,some ⟨0,"Reader",⟨"a.txt","'a.txt'",false⟩⟩⟩
  let blank : Value := .file ⟨none,none,some ⟨1,"Reader",⟨"b.txt","'b.txt'",false⟩⟩⟩
  .map [(.text "doc",stream),(.text "more",.list [blank,stream,blank])]

theorem bundleRead :
    let scene : Scene Shelf := ⟨.empty,[(0,.streamed (ascii "x")),(1,.yields (.text []))]⟩
    let ran := (onShelf.recorded.encode "B" bundle).perform scene.recording
    ∃ payload, ran.1 = .ok payload ∧ ran.2.world.readings.map Reading.handle = [0,1] ∧
      ReadsOnce "B" bundle ran.2.world.readings ran.1 := by
  intro scene ran
  obtain ⟨_,_,reads,_⟩ := readOnce onShelf "B" bundle scene
  exact ⟨_,rfl,rfl,reads⟩

end Reader
end BotGateway
