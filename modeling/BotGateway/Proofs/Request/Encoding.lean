import BotGateway.Proofs.Action
import BotGateway.Request.Payload

/-! How a request is encoded: as a document when there are no files, else as the file parts followed
by the form parts. -/
namespace BotGateway
open BotGateway.Action

namespace Attachment

def contentOf (contents : Contents) (part : Text) (source : Source) : Action Shelf Bytes :=
  match contents.lookup source.handle with
  | some raw => pure raw
  | none => read part source

def filePart (attachment : Attachment) (raw : Bytes) : Part :=
  ⟨attachment.partName,some attachment.file.filename,.bytes raw⟩

theorem partsWithSource {contents rest} {attachment : Attachment} {source}
    (held : attachment.file.content = some source) :
    parts contents (attachment :: rest) = contentOf contents attachment.partName source >>= fun raw =>
      parts ((source.handle,raw) :: contents) rest >>= fun others =>
        pure (filePart attachment raw :: others) := by
  rw [parts,held]
  cases known : contents.lookup source.handle <;> simp only [contentOf,known] <;> rfl

theorem partsCons {contents rest} {attachment : Attachment} {scene after : Scene Shelf} {files}
    (done : (parts contents (attachment :: rest)).perform scene = (.ok files,after)) :
    ∃ source raw mid others, attachment.file.content = some source ∧
      (contentOf contents attachment.partName source).perform scene = (.ok raw,mid) ∧
      (parts ((source.handle,raw) :: contents) rest).perform mid = (.ok others,after) ∧
      files = filePart attachment raw :: others := by
  cases held : attachment.file.content with
  | none =>
    rw [parts,held] at done
    cases done
  | some source =>
    rw [partsWithSource held,perform_bind] at done
    split at done
    · rename_i raw mid first
      rw [perform_bind] at done
      split at done
      · rename_i others last later
        cases done
        exact ⟨source,raw,mid,others,rfl,first,later,rfl⟩
      · cases done
    · cases done

theorem partsNames {contents attachments} {scene after : Scene Shelf} {files}
    (done : (parts contents attachments).perform scene = (.ok files,after)) :
    files.map (·.name) = attachments.map (·.partName) := by
  induction attachments generalizing contents scene files with
  | nil =>
    cases done
    rfl
  | cons attachment rest ih =>
    obtain ⟨source,raw,mid,others,_,_,later,rfl⟩ := partsCons done
    simp only [List.map_cons,ih later,filePart]

end Attachment

namespace Payload

theorem formPartsNames {fields form} (written : formParts fields = .ok form) :
    form.map (·.name) = fields.map (·.1) := by
  induction fields generalizing form with
  | nil =>
    cases written
    rfl
  | cons field rest ih =>
    obtain ⟨name,value⟩ := field
    simp only [formParts,bind,Except.bind] at written
    split at written
    · cases written
    · split at written
      · cases written
      · rename_i others inner
        cases written
        simp only [List.map_cons,ih inner]

variable {boundary : Text} {prepared : Prepared} {scene after : Scene Shelf} {payload : Payload}

theorem encodedDocument (without : prepared.attachments = []) :
    (ofPrepared boundary prepared).perform scene =
      (match encodeDocument prepared.document with
        | .ok body => .ok ⟨documentType,body⟩
        | .error cause => .error (.documentBody cause),scene) := by
  unfold ofPrepared
  rw [if_pos (by simp [without])]
  split <;> simp_all

theorem encodedParts (having : prepared.attachments ≠ [])
    (sent : (ofPrepared boundary prepared).perform scene = (.ok payload,after)) :
    ∃ files form mid, (Attachment.parts [] prepared.attachments).perform scene = (.ok files,mid) ∧
      formParts prepared.fields = .ok form ∧
      Multipart.encodeParts boundary (files ++ form) = .ok payload.body ∧
      payload.contentType = Multipart.contentType boundary := by
  unfold ofPrepared at sent
  rw [if_neg (by simpa using having),perform_bind] at sent
  split at sent
  · rename_i files mid read
    unfold encodeMultipart at sent
    cases written : formParts prepared.fields with
    | error cause => simp [written] at sent
    | ok form =>
      cases encoded : Multipart.encodeParts boundary (files ++ form) with
      | error found => simp [written,encoded] at sent
      | ok body =>
        simp only [written,encoded,perform_bind,perform_note,perform_pure] at sent
        cases sent
        exact ⟨files,form,mid,read,rfl,encoded,rfl⟩
  · cases sent

theorem encodeShown {parameters : Value} (shown : parameters.hasLongKey = false) :
    encode boundary parameters = ofPrepared boundary (.ofParameters parameters) := by
  rw [encode,shown,if_neg Bool.false_ne_true]

theorem encodeUnshown {parameters : Value} (long : parameters.hasLongKey = true) :
    (encode boundary parameters).perform scene = (.error (.unwritable .longInteger),scene) := by
  rw [encode,long,if_pos rfl,perform_throw]

theorem encodedShown {parameters : Value}
    (sent : (encode boundary parameters).perform scene = (.ok payload,after)) :
    parameters.hasLongKey = false := by
  rw [← Bool.not_eq_true]
  intro long
  rw [encodeUnshown long] at sent
  cases sent

end Payload
end BotGateway
