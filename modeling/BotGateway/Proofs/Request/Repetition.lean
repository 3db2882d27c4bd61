import BotGateway.Proofs.Request.AddedFile
import BotGateway.Proofs.Request.Contents

/-! Encoding the same parameters again. What comes out is settled by the parameters and by what their
sources hold, but for the boundary, and no encoding takes away what a source holds that can be read
from its start. -/
namespace BotGateway
open Utf8 BotGateway.Action

namespace Behaviour

inductive Holds : Behaviour → Value → Prop where
  | buffered (data : Bytes) (position : Nat) : Holds (.buffered ⟨data,position⟩) (.bytes data)
  | yields (value : Value) : Holds (.yields value) value

def afresh : Behaviour → Behaviour
  | .buffered buffer => .buffered ⟨buffer.data,0⟩
  | behaviour => behaviour

variable {behaviour : Behaviour} {value : Value}

theorem Holds.read (holds : behaviour.Holds value) : behaviour.readAll.1 = .ok value := by
  cases holds <;> rfl

theorem Holds.afterRead (holds : behaviour.Holds value) : behaviour.readAll.2.Holds value := by
  cases holds with
  | buffered data => exact .buffered data data.length
  | yields value => exact .yields value

theorem Holds.renewed (holds : behaviour.Holds value) : behaviour.afresh.Holds value := by
  cases holds with
  | buffered data => exact .buffered data 0
  | yields value => exact .yields value

end Behaviour

namespace Shelf

variable {shelf mid after : Shelf}

theorem findPutSame (handle : Nat) (behaviour : Behaviour) (shelf : Shelf) :
    (shelf.put handle behaviour).find handle = behaviour := by
  induction shelf with
  | nil => simp [put,find]
  | cons entry rest ih =>
    obtain ⟨h,held⟩ := entry
    simp only [find] at ih
    by_cases same : h = handle
    · simp [put,find,same]
    · simpa [put,find,same,List.lookup_cons,beq_false_of_ne fun other => same other.symm] using ih

def afresh (shelf : Shelf) : Shelf := shelf.map fun (handle,behaviour) => (handle,behaviour.afresh)

theorem findAfresh (shelf : Shelf) (handle : Nat) :
    shelf.afresh.find handle = (shelf.find handle).afresh := by
  induction shelf with
  | nil => rfl
  | cons entry rest ih =>
    obtain ⟨h,held⟩ := entry
    simp only [find,afresh,List.map_cons,List.lookup_cons] at ih ⊢
    split
    · rfl
    · exact ih

def Keeps (shelf after : Shelf) : Prop :=
  ∀ handle value, (shelf.find handle).Holds value → (after.find handle).Holds value

theorem Keeps.refl (shelf : Shelf) : shelf.Keeps shelf := fun _ _ holds => holds

theorem Keeps.trans (first : shelf.Keeps mid) (second : mid.Keeps after) : shelf.Keeps after :=
  fun handle value holds => second handle value (first handle value holds)

theorem keepsAfresh (shelf : Shelf) : shelf.Keeps shelf.afresh := by
  intro handle value holds
  rw [findAfresh]
  exact holds.renewed

theorem readKeeps (shelf : Shelf) (handle : Nat) :
    shelf.Keeps (shelf.put handle (shelf.find handle).readAll.2) := by
  intro other value holds
  by_cases same : other = handle
  · subst same
    rw [findPutSame]
    exact holds.afterRead
  · rwa [findPut same]

end Shelf

namespace Attachment
open BotGateway.Shelf

variable {shelf other : Shelf} {contents : Contents} {source : Source} {value : Value}

theorem givenHeld (part : Text) (holds : (shelf.find source.handle).Holds value) :
    given shelf part source = bytesOfRead part value := by
  rw [given,holds.read]

theorem readLeaves (part : Text) (source : Source) (scene : Scene Shelf) :
    scene.world.Keeps ((read part source).perform scene).2.world := by
  have performed := readGiven part (rfl : scene.world.find source.handle = _)
  rw [performed]
  exact readKeeps scene.world source.handle

theorem contentLeaves (contents : Contents) (part : Text) (source : Source) (scene : Scene Shelf) :
    scene.world.Keeps ((contentOf contents part source).perform scene).2.world := by
  unfold contentOf
  split
  · exact .refl _
  · exact readLeaves part source scene

theorem partsLeave (contents : Contents) (attachments : List Attachment) (scene : Scene Shelf) :
    scene.world.Keeps ((parts contents attachments).perform scene).2.world := by
  induction attachments generalizing contents scene with
  | nil => exact .refl _
  | cons attachment rest ih =>
    cases held : attachment.file.content with
    | none =>
      rw [parts,held]
      exact .refl _
    | some source =>
      have first := contentLeaves contents attachment.partName source scene
      rw [partsWithSource held,perform_bind]
      generalize (contentOf contents attachment.partName source).perform scene = done at first ⊢
      obtain ⟨failure | raw,after⟩ := done
      · exact first
      · simp only [bind_pure_comp,perform_map]
        exact first.trans (ih _ after)

def Attached (shelf : Shelf) (attachments : List Attachment) : Prop :=
  ∀ attachment ∈ attachments, ∀ source, attachment.file.content = some source →
    ∃ value, (shelf.find source.handle).Holds value

theorem partsOnKept {attachments : List Attachment} (attached : Attached shelf attachments)
    (keeps : shelf.Keeps other) : partsOn other attachments = partsOn shelf attachments := by
  induction attachments with
  | nil => rfl
  | cons attachment rest ih =>
    obtain ⟨first,further⟩ := List.forall_mem_cons.mp attached
    cases held : attachment.file.content with
    | none => simp only [partsOn,held]
    | some source =>
      obtain ⟨value,holds⟩ := first source held
      simp only [partsOn,held,ih further,givenHeld _ holds,givenHeld _ (keeps _ _ holds)]

theorem bytesOfReadOrdinary {part : Text} {failure} (failed : bytesOfRead part value = .error failure) :
    failure.kind.isOrdinary := by
  unfold bytesOfRead at failed
  split at failed
  · cases failed
  · split at failed <;> cases failed
    rfl
  · cases failed
    rfl

theorem partsOnOrdinary {attachments : List Attachment} (attached : Attached shelf attachments)
    {failure} (failed : partsOn shelf attachments = .error failure) : failure.kind.isOrdinary := by
  induction attachments with
  | nil => cases failed
  | cons attachment rest ih =>
    obtain ⟨first,further⟩ := List.forall_mem_cons.mp attached
    cases held : attachment.file.content with
    | none =>
      rw [partsOn,held] at failed
      cases failed
      rfl
    | some source =>
      obtain ⟨value,holds⟩ := first source held
      simp only [partsOn,held,givenHeld _ holds] at failed
      cases read : bytesOfRead attachment.partName value with
      | error cause =>
        rw [read] at failed
        cases failed
        exact bytesOfReadOrdinary read
      | ok raw =>
        cases later : partsOn shelf rest with
        | error cause =>
          rw [read,later] at failed
          cases failed
          exact ih further later
        | ok others =>
          rw [read,later] at failed
          cases failed

end Attachment

namespace Part

def segment (part : Part) : Except LoneSurrogates Bytes := do
  let header ← Utf8.encode part.header
  let data ← PartData.encode part.data
  return header ++ data ++ ascii "\r\n"

theorem encodeSegment (boundary : Text) (part : Part) : part.encode boundary =
    part.segment.map (bytesOf ("--" ++ boundary ++ lineEnd) ++ ·) := by
  unfold encode segment
  cases Utf8.encode part.header with
  | error found => rfl
  | ok header =>
    cases PartData.encode part.data with
    | error found => rfl
    | ok data => simp [bind,Except.bind,pure,Except.pure,Except.map]

end Part

namespace Multipart

def segments : List Part → Except LoneSurrogates (List Bytes)
  | [] => .ok []
  | part :: rest => do
    let first ← part.segment
    let others ← segments rest
    return first :: others

def bounded (boundary : Text) : List Bytes → Bytes
  | [] => bytesOf ("--" ++ boundary ++ "--" ++ Part.lineEnd)
  | segment :: rest =>
    bytesOf ("--" ++ boundary ++ Part.lineEnd) ++ segment ++ bounded boundary rest

theorem encodePartsSegments (boundary : Text) (parts : List Part) :
    encodeParts boundary parts = (segments parts).map (bounded boundary) := by
  induction parts with
  | nil => rfl
  | cons part rest ih =>
    rw [encodeParts,segments,ih,Part.encodeSegment]
    cases part.segment with
    | error found => rfl
    | ok first => cases segments rest <;> rfl

end Multipart

namespace Payload
open Prepared Attachment

inductive Outcome where
  | failed (failure : Failure)
  | document (body : Bytes)
  | form (segments : List Bytes)

def Outcome.under (boundary : Text) : Outcome → Except Failure Payload
  | .failed failure => .error failure
  | .document body => .ok ⟨documentType,body⟩
  | .form segments => .ok ⟨Multipart.contentType boundary,Multipart.bounded boundary segments⟩

theorem Outcome.failsUnder {boundary : Text} {outcome : Outcome} {failure : Failure} :
    outcome.under boundary = .error failure ↔ outcome = .failed failure := by
  cases outcome <;> simp [under]

def documentOutcome (prepared : Prepared) : Outcome :=
  match encodeDocument prepared.document with
  | .error cause => .failed (.documentBody cause)
  | .ok body => .document body

def formOutcome (files : List Part) (fields : List (Text × Value)) : Outcome :=
  match formParts fields with
  | .error cause => .failed (.multipartBody (.unwritable cause))
  | .ok form =>
    match Multipart.segments (files ++ form) with
    | .error found => .failed (.multipartBody (.unencodable found))
    | .ok segments => .form segments

def preparedOutcome (shelf : Shelf) (prepared : Prepared) : Outcome :=
  if prepared.attachments = [] then documentOutcome prepared
  else
    match partsOn shelf prepared.attachments with
    | .error failure => .failed failure
    | .ok files => formOutcome files prepared.fields

def outcomeOn (shelf : Shelf) (parameters : Value) : Outcome :=
  if parameters.hasLongKey then .failed (.unwritable .longInteger)
  else preparedOutcome shelf (.ofParameters parameters)

variable {boundary : Text} {parameters : Value} {shelf other : Shelf}

theorem multipartOutcome (boundary : Text) (files : List Part) (fields : List (Text × Value)) :
    (match encodeMultipart boundary files fields with
      | .error cause => .error (.multipartBody cause)
      | .ok body => .ok ⟨Multipart.contentType boundary,body⟩) =
    (formOutcome files fields).under boundary := by
  unfold encodeMultipart formOutcome
  cases formParts fields with
  | error cause => rfl
  | ok form =>
    dsimp only
    rw [Multipart.encodePartsSegments]
    cases Multipart.segments (files ++ form) <;> rfl

theorem preparedUnder (boundary : Text) (prepared : Prepared) (scene : Scene Shelf) :
    ((ofPrepared boundary prepared).perform scene).1 =
      (preparedOutcome scene.world prepared).under boundary := by
  by_cases without : prepared.attachments = []
  · rw [encodedDocument without,preparedOutcome,if_pos without,documentOutcome]
    cases encodeDocument prepared.document <;> rfl
  · rw [preparedOutcome,if_neg without,← partsGiven (keptAll scene.world),ofPrepared,
      if_neg (by simpa using without),perform_bind]
    rcases (parts [] prepared.attachments).perform scene with ⟨failure | files,after⟩
    · rfl
    · dsimp only
      rw [← multipartOutcome]
      cases encodeMultipart boundary files prepared.fields <;> rfl

theorem encodedUnder (boundary : Text) (parameters : Value) (scene : Scene Shelf) :
    encoded boundary parameters scene = (outcomeOn scene.world parameters).under boundary := by
  cases long : parameters.hasLongKey with
  | true =>
    rw [encoded,encodeUnshown long,outcomeOn,if_pos long]
    rfl
  | false =>
    rw [encoded,encodeShown long,outcomeOn,if_neg (by simp [long])]
    exact preparedUnder boundary _ scene

theorem encodeLeaves (boundary : Text) (parameters : Value) (scene : Scene Shelf) :
    scene.world.Keeps ((encode boundary parameters).perform scene).2.world := by
  cases long : parameters.hasLongKey with
  | true =>
    rw [encodeUnshown long]
    exact .refl _
  | false =>
    rw [encodeShown long]
    by_cases without : (ofParameters parameters).attachments = []
    · rw [encodedDocument without]
      exact .refl _
    · have read := partsLeave [] (ofParameters parameters).attachments scene
      rw [ofPrepared,if_neg (by simpa using without),perform_bind]
      generalize (parts [] (ofParameters parameters).attachments).perform scene = done at read ⊢
      obtain ⟨failure | files,after⟩ := done
      · exact read
      · dsimp only
        split
        · exact read
        · exact read

def Seekable (shelf : Shelf) (parameters : Value) : Prop :=
  ∀ trail f source, f.isLocal → parameters.Within trail (.file f) → f.content = some source →
    ∃ value, (shelf.find source.handle).Holds value

theorem Seekable.kept (seekable : Seekable shelf parameters) (keeps : shelf.Keeps other) :
    Seekable other parameters := by
  intro trail f source isLocal within held
  obtain ⟨value,holds⟩ := seekable trail f source isLocal within held
  exact ⟨value,keeps _ _ holds⟩

theorem attachmentWithin {attachment : Attachment}
    (member : attachment ∈ (ofParameters parameters).attachments) :
    attachment.file.isLocal ∧ ∃ trail, parameters.Within trail (.file attachment.file) := by
  cases given : parameters.isParameters with
  | true =>
    obtain ⟨found,files,attached⟩ := Value.attachmentsAlong parameters
    rw [attachmentsFound given,attached] at member
    obtain ⟨⟨trail,f⟩,among,rfl⟩ := List.mem_map.mp member
    obtain ⟨isLocal,within⟩ := files.exact.mp among
    exact ⟨isLocal,trail,within⟩
  | false =>
    have none : (ofParameters parameters).attachments = [] := by
      cases parameters with
      | file f =>
        obtain ⟨fileId,url,content⟩ := f
        cases fileId <;> cases url <;> cases content <;> rfl
      | map entries => cases given
      | record kind fields => cases given
      | _ => rfl
    rw [none] at member
    cases member

theorem Seekable.attached (seekable : Seekable shelf parameters) :
    Attached shelf (ofParameters parameters).attachments := by
  intro attachment member source held
  obtain ⟨isLocal,trail,within⟩ := attachmentWithin member
  exact seekable trail attachment.file source isLocal within held

theorem attachedSeekable (given : parameters.isParameters)
    (attached : Attached shelf (ofParameters parameters).attachments) : Seekable shelf parameters := by
  intro trail f source isLocal within held
  obtain ⟨found,files,along⟩ := Value.attachmentsAlong parameters
  refine attached ⟨Attachment.nameOf trail.names,f⟩ ?_ source held
  rw [attachmentsFound given,along]
  exact List.mem_map.mpr ⟨(trail,f),files.exact.mpr ⟨isLocal,within⟩,rfl⟩

theorem outcomeKept (seekable : Seekable shelf parameters) (keeps : shelf.Keeps other) :
    outcomeOn other parameters = outcomeOn shelf parameters := by
  unfold outcomeOn preparedOutcome
  rw [partsOnKept seekable.attached keeps]

theorem outcomeOrdinary (seekable : Seekable shelf parameters) {failure}
    (failed : outcomeOn shelf parameters = .failed failure) : failure.kind.isOrdinary := by
  unfold outcomeOn at failed
  split at failed
  · cases failed
    rfl
  · unfold preparedOutcome at failed
    split at failed
    · unfold documentOutcome at failed
      split at failed <;> cases failed
      rfl
    · split at failed
      · rename_i read
        cases failed
        exact partsOnOrdinary seekable.attached read
      · unfold formOutcome at failed
        split at failed
        · cases failed
          rfl
        · split at failed <;> cases failed
          rfl

theorem outcomeManaged (seekable : Seekable shelf parameters) :
    (∀ failure, outcomeOn shelf parameters = .failed failure → failure.kind = .encode) ↔
      Manageable parameters shelf := by
  have same := encodedUnder [] parameters ⟨.empty,shelf⟩
  constructor
  · intro settled
    have keys : parameters.hasLongKey = false := by
      rw [← Bool.not_eq_true]
      intro long
      cases settled _ (if_pos long)
    have mild : Mild ((ofPrepared [] (ofParameters parameters)).perform ⟨.empty,shelf⟩).1 := by
      intro failure failed _
      rw [encoded,encodeShown keys,failed] at same
      exact settled failure (Outcome.failsUnder.mp same.symm)
    exact ⟨keys,preparedMild.mp mild⟩
  · intro managed failure failed
    rw [encoded,encodeShown managed.keys,Outcome.failsUnder.mpr failed] at same
    exact preparedMild.mpr managed.texts failure same (outcomeOrdinary seekable failed)

inductive Attempts (parameters : Value) : Shelf → List (Text × Except Failure Payload) → Prop where
  | none (shelf : Shelf) : Attempts parameters shelf []
  | again {shelf moved : Shelf} {journal boundary rest} (keeps : shelf.Keeps moved)
      (further : Attempts parameters ((encode boundary parameters).perform ⟨journal,moved⟩).2.world rest) :
      Attempts parameters shelf ((boundary,encoded boundary parameters ⟨journal,moved⟩) :: rest)

theorem attemptsUnder {attempts : List (Text × Except Failure Payload)}
    (seekable : Seekable shelf parameters) (tried : Attempts parameters shelf attempts) :
    ∀ attempt ∈ attempts, attempt.2 = (outcomeOn shelf parameters).under attempt.1 := by
  induction tried with
  | none => simp
  | @again shelf moved journal boundary rest keeps further ih =>
    -- what the sources hold outlasts both the moving and the encoding
    have lasts := keeps.trans (encodeLeaves boundary parameters ⟨journal,moved⟩)
    refine List.forall_mem_cons.mpr ⟨?_,?_⟩
    · rw [encodedUnder,outcomeKept seekable keeps]
    · rw [← outcomeKept seekable lasts]
      exact ih (seekable.kept lasts)

/-- Where every source can go to its start, all attempts come to one outcome, and it is the one that
new sources with the same content come to. A failure is then an error of encoding exactly where no key
and no text is in the way. -/
theorem attemptsAgree {attempts : List (Text × Except Failure Payload)}
    (seekable : Seekable shelf parameters) (tried : Attempts parameters shelf attempts) :
    ∃ outcome : Outcome,
      (∀ attempt ∈ attempts, attempt.2 = outcome.under attempt.1) ∧
      (∀ boundary journal,
        encoded boundary parameters ⟨journal,shelf.afresh⟩ = outcome.under boundary) ∧
      ((∀ failure, outcome = .failed failure → failure.kind = .encode) ↔
        Manageable parameters shelf) := by
  refine ⟨outcomeOn shelf parameters,attemptsUnder seekable tried,?_,outcomeManaged seekable⟩
  intro boundary journal
  rw [encodedUnder,outcomeKept seekable (Shelf.keepsAfresh shelf)]

def shared : Value :=
  let photo : InputFile := ⟨none,none,some ⟨0,"NamedBytes",⟨"a.png","'a.png'",false⟩⟩⟩
  .map [(.text "photo",.file photo),(.text "more",.list [.file photo])]

def standing (position : Nat) : Shelf := [(0,.buffered ⟨ascii "12",position⟩)]

theorem standingKeeps (before after : Nat) : (standing before).Keeps (standing after) := by
  intro handle value holds
  cases handle with
  | zero =>
    cases holds
    exact .buffered _ _
  | succ n => exact holds

theorem sharedSeekable (position : Nat) : Seekable (standing position) shared := by
  refine attachedSeekable rfl ?_
  have holds : ∃ value, ((standing position).find 0).Holds value := ⟨_,.buffered _ position⟩
  refine List.forall_mem_cons.mpr ⟨?_,List.forall_mem_singleton.mpr ?_⟩
  all_goals
    rintro source ⟨⟩
    exact holds

theorem sharedAgrees : ∃ outcome : Outcome,
    encoded "B" shared ⟨.empty,standing 1⟩ = outcome.under "B" ∧
    encoded "C" shared ⟨.empty,standing 2⟩ = outcome.under "C" ∧
    encoded "D" shared ⟨.empty,standing 0⟩ = outcome.under "D" ∧
    ∀ failure, outcome = .failed failure → failure.kind = .encode := by
  have tried : Attempts shared (standing 1) [("B",encoded "B" shared ⟨.empty,standing 1⟩),
      ("C",encoded "C" shared ⟨.empty,standing 2⟩)] :=
    .again (.refl _) (.again (standingKeeps 2 2) (.none _))
  have texts : ¬MeetsWild (standing 1) (ofParameters shared).attachments := by
    rintro (⟨_,⟨_,⟨⟩,⟨⟩⟩,_⟩ | ⟨_,⟨_,⟨_,⟨⟩,⟨⟩⟩,_⟩ | ⟨_,further⟩⟩)
    cases further
  obtain ⟨outcome,same,fresh,encodes⟩ := attemptsAgree (sharedSeekable 1) tried
  have first := same _ List.mem_cons_self
  have second := same _ (.tail _ List.mem_cons_self)
  exact ⟨outcome,first,second,fresh "D" .empty,encodes.mpr ⟨rfl,texts⟩⟩

theorem strayAttemptsEscape :
    let shelf : Shelf := [(0,.yields (.text [CodePoint.ofNat 0xD800]))]
    Seekable shelf memo ∧ ∃ failure : Failure,
      Attempts memo shelf [("B",.error failure),("C",.error failure)] ∧
      failure.kind.isOrdinary ∧ failure.kind ≠ .encode := by
  intro shelf
  have seekable : Seekable shelf memo := by
    refine attachedSeekable rfl (List.forall_mem_singleton.mpr ?_)
    rintro source ⟨⟩
    exact ⟨_,.yields _⟩
  have tried : Attempts memo shelf [("B",encoded "B" memo ⟨.empty,shelf⟩),
      ("C",encoded "C" memo ⟨.empty,shelf⟩)] := .again (.refl _) (.again (.refl _) (.none _))
  exact ⟨seekable,.unencodable ⟨0,CodePoint.ofNat 0xD800,1⟩,tried,rfl,by decide⟩

end Payload
end BotGateway
