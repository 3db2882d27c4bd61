import BotGateway.Proofs.Request.FormFields

/-! One file added to parameters that have none. The document becomes a form with the same fields,
and each of the two can be encoded when the other can. -/
namespace BotGateway
open Utf8 Value

namespace Value

variable {entries : List (Value × Value)} {k : Text} {f : InputFile}

theorem sameKeyText {key : Value} (same : sameKey key (.text k) = true) : key.display = k := by
  cases key with
  | text t =>
    rw [sameKey] at same
    exact eq_of_beq same
  | _ => simp [sameKey,integral?] at same

theorem setEntryNew {value : Value} (new : ∀ entry ∈ entries, entry.1.display ≠ k) :
    setEntry (.text k) value entries = entries ++ [(.text k,value)] := by
  induction entries with
  | nil => rfl
  | cons entry rest ih =>
    obtain ⟨key,held⟩ := entry
    have different : ¬sameKey key (.text k) = true :=
      fun same => new _ List.mem_cons_self (sameKeyText same)
    rw [setEntry,if_neg different,ih fun other member => new other (.tail _ member)]
    rfl

theorem longKeyAppended (more : List (Value × Value)) : hasLongKeyEntry (entries ++ more) =
    (hasLongKeyEntry entries || hasLongKeyEntry more) := by
  induction entries with
  | nil => rfl
  | cons entry rest ih =>
    obtain ⟨key,held⟩ := entry
    rw [List.cons_append,hasLongKeyEntry,hasLongKeyEntry,ih]
    split
    · rfl
    · simp only [Bool.or_assoc]

theorem longKeyWithFile (new : ∀ entry ∈ entries, entry.1.display ≠ k) :
    hasLongKey (.map (setEntry (.text k) (.file f) entries)) = hasLongKey (.map entries) := by
  have none : hasLongKeyEntry [(.text k,.file f)] = false := rfl
  rw [setEntryNew new,hasLongKey,hasLongKey,longKeyAppended,none,Bool.or_false]

end Value

namespace Prepared

variable {entries : List (Value × Value)} {k : Text} {f : InputFile}

theorem withFile (isLocal : f.isLocal) (new : ∀ entry ∈ entries, entry.1.display ≠ k) :
    ofParameters (.map (setEntry (.text k) (.file f) entries)) =
      ⟨(ofParameters (.map entries)).fields,(ofParameters (.map entries)).attachments ++ [⟨k,f⟩]⟩ := by
  have added : members (.map (setEntry (.text k) (.file f) entries)) =
      members (.map entries) ++ [(k,.file f)] := by
    rw [setEntryNew new]
    simp [members,isNull,display]
  have part : (Value.file f).attachments [k] = [⟨k,f⟩] := by
    simp [Value.attachments,Attachment.ofFile?,isLocal,Attachment.nameOf,Text.join]
  simp only [ofParameters,added,List.filter_append,List.flatMap_append,List.flatMap_singleton,part]
  simp [isPart,isLocal]

theorem withoutFiles {parameters : Value} (given : parameters.isParameters)
    (remote : ∀ trail f, parameters.Within trail (.file f) → f.isLocal = false) :
    (ofParameters parameters).attachments = [] := by
  rw [attachmentsFound given]
  exact attachmentsNone remote []

theorem remoteOnly {value : Value} (none : value.attachments [] = []) :
    ∀ trail f, value.Within trail (.file f) → f.isLocal = false := by
  intro trail f within
  obtain ⟨found,files,attached⟩ := attachmentsAlong value
  have empty : found = [] := List.map_eq_nil_iff.mp ((attached []).symm.trans none)
  cases isLocal : f.isLocal with
  | false => rfl
  | true =>
    have member : (trail,f) ∈ found := files.exact.mpr ⟨isLocal,within⟩
    rw [empty] at member
    cases member

theorem wiredWithoutFiles {parameters : Value} (given : parameters.isParameters)
    (remote : ∀ trail f, parameters.Within trail (.file f) → f.isLocal = false) :
    (ofParameters parameters).fields = lastOfEach (parameters.members.map (wireChild [])) := by
  have noParts : ∀ member ∈ parameters.members, member.2.isPart = false := by
    rintro ⟨name,child⟩ member
    rw [← parametersChildren given] at member
    obtain ⟨i,placed⟩ := List.mem_iff_getElem?.mp member
    cases child with
    | file f => exact remote _ f (.inside placed (.here _))
    | _ => rfl
  rw [fieldsWired,wiredMembers,List.filter_eq_self.mpr fun member among => by simp [noParts member among]]

theorem fieldsWithoutFiles {parameters : Value} (given : parameters.isParameters)
    (remote : ∀ trail f, parameters.Within trail (.file f) → f.isLocal = false) :
    (ofParameters parameters).fields.map (·.1) = (lastOfEach parameters.members).map (·.1) := by
  have same : lastOfEach (parameters.members.map (wireChild [])) =
      (lastOfEach parameters.members).map (wireChild []) :=
    (lastOfEachMap (fun name child => child.wire ([] ++ [name])) parameters.members).symm
  rw [wiredWithoutFiles given remote,same,List.map_map]
  rfl

theorem documentEntries (parameters : Value) : (ofParameters parameters).document =
    .map ((ofParameters parameters).fields.map textEntry) := by
  rw [document,ofFields,fieldsWired,lastOfEachSame (lastOfEachNodup _)]
  rfl

end Prepared

namespace Payload
open Json Prepared

variable {boundary k : Text} {f : InputFile} {source : Source} {data : Bytes} {scene : Scene Shelf}
  {fields : List (Text × Value)}

structure SameFields (boundary : Text) (file : Part) (parameters : Value) (document form : Payload)
    (members : List (Text × Json)) : Prop where
  names : members.map (·.1) = (lastOfEach parameters.members).map (·.1)
  asDocument : document.contentType = documentType
  documentBody : Utf8.encode ((Json.object members).write compact) = .ok document.body
  asForm : form.contentType = Multipart.contentType boundary
  formBody : Multipart.encodeParts boundary (file :: members.map formPart) = .ok form.body

def encoded (boundary : Text) (parameters : Value) (scene : Scene Shelf) : Except Failure Payload :=
  ((encode boundary parameters).perform scene).1

theorem encodedWithFile (held : f.content = some source)
    (readable : ((Attachment.read k source).perform scene).1 = .ok data) :
    ((ofPrepared boundary ⟨fields,[⟨k,f⟩]⟩).perform scene).1 =
      match encodeMultipart boundary [⟨k,some f.filename,.bytes data⟩] fields with
      | .ok body => .ok ⟨Multipart.contentType boundary,body⟩
      | .error cause => .error (.multipartBody cause) := by
  obtain ⟨after,read⟩ : ∃ after, (Attachment.read k source).perform scene = (.ok data,after) :=
    ⟨_,Prod.ext readable rfl⟩
  have files : (Attachment.parts [] [⟨k,f⟩]).perform scene =
      (.ok [⟨k,some f.filename,.bytes data⟩],after) := by
    rw [Attachment.partsWithSource held]
    simp [Attachment.contentOf,read,Attachment.parts,Attachment.filePart,Except.map]
  simp only [ofPrepared,List.isEmpty_cons,Bool.false_eq_true,if_false,Action.perform_bind,files]
  cases encodeMultipart boundary [⟨k,some f.filename,.bytes data⟩] fields <;> rfl

theorem encodesDocument {body} : encodeDocument (.map (fields.map textEntry)) = .ok body ↔
    ∃ members, toJsonEntries false (fields.map textEntry) = .ok members ∧
      (∀ member ∈ members, (formPart member).Sendable) ∧
      body = bytesOf ((Json.object members).write compact) := by
  simp only [← writeObjectEncodable]
  unfold encodeDocument
  rw [writeMap]
  cases toJsonEntries false (fields.map textEntry) with
  | error cause => simp [Except.map]
  | ok members =>
    simp only [Except.map,Except.ok.injEq,exists_eq_left']
    rw [← encodeSome]
    cases Utf8.encode ((Json.object members).write compact) <;> simp

theorem encodesForm {files} (body : Bytes) : encodeMultipart boundary files fields = .ok body ↔
    ∃ members, toJsonEntries false (fields.map textEntry) = .ok members ∧
      Multipart.encodeParts boundary (files ++ members.map formPart) = .ok body := by
  unfold encodeMultipart
  rw [formPartsJson]
  cases toJsonEntries false (fields.map textEntry) with
  | error cause => simp [Except.map]
  | ok members =>
    simp only [Except.map,Except.ok.injEq,exists_eq_left']
    cases Multipart.encodeParts boundary (files ++ members.map formPart) <;> simp

theorem aloneSome {parameters : Value} {document}
    (without : (ofParameters parameters).attachments = []) :
    encoded boundary parameters scene = .ok document ↔
      parameters.hasLongKey = false ∧ document.contentType = documentType ∧
      ∃ members, toJsonEntries false ((ofParameters parameters).fields.map textEntry) = .ok members ∧
        (∀ member ∈ members, (formPart member).Sendable) ∧
        document.body = bytesOf ((Json.object members).write compact) := by
  cases long : parameters.hasLongKey with
  | true => simp [encoded,encodeUnshown long]
  | false =>
  rw [encoded,encodeShown long,encodedDocument without,documentEntries,← encodesDocument]
  obtain ⟨contentType,body⟩ := document
  cases encodeDocument (.map ((ofParameters parameters).fields.map textEntry)) with
  | error cause => simp
  | ok written => simp [eq_comm]

theorem togetherSome {entries : List (Value × Value)} {form}
    (without : (ofParameters (.map entries)).attachments = []) (isLocal : f.isLocal)
    (new : ∀ entry ∈ entries, entry.1.display ≠ k) (held : f.content = some source)
    (readable : ((Attachment.read k source).perform scene).1 = .ok data) :
    encoded boundary (.map (setEntry (.text k) (.file f) entries)) scene = .ok form ↔
      hasLongKey (.map entries) = false ∧ form.contentType = Multipart.contentType boundary ∧
      ∃ members,
        toJsonEntries false ((ofParameters (.map entries)).fields.map textEntry) = .ok members ∧
        Multipart.encodeParts boundary
          (⟨k,some f.filename,.bytes data⟩ :: members.map formPart) = .ok form.body := by
  have same := longKeyWithFile (f := f) new
  cases long : hasLongKey (.map entries) with
  | true => simp [encoded,encodeUnshown (same.trans long)]
  | false =>
  rw [encoded,encodeShown (same.trans long),withFile isLocal new,without,List.nil_append,
    encodedWithFile held readable]
  have asForm (body : Bytes) : encodeMultipart boundary [⟨k,some f.filename,.bytes data⟩]
      (ofParameters (.map entries)).fields = .ok body ↔ ∃ members,
        toJsonEntries false ((ofParameters (.map entries)).fields.map textEntry) = .ok members ∧
        Multipart.encodeParts boundary
          (⟨k,some f.filename,.bytes data⟩ :: members.map formPart) = .ok body := encodesForm body
  rw [← asForm]
  obtain ⟨contentType,body⟩ := form
  cases encodeMultipart boundary [⟨k,some f.filename,.bytes data⟩]
      (ofParameters (.map entries)).fields with
  | error cause => simp
  | ok written => simp [eq_comm]

theorem addedFileAgrees {entries : List (Value × Value)}
    (remote : ∀ trail g, (Value.map entries).Within trail (.file g) → g.isLocal = false)
    (new : ∀ entry ∈ entries, entry.1.display ≠ k) (key : Encodable k) (isLocal : f.isLocal)
    (name : Encodable f.filename) (held : f.content = some source)
    (readable : ((Attachment.read k source).perform scene).1 = .ok data) :
    ((∃ document, encoded boundary (.map entries) scene = .ok document) ↔
      ∃ form, encoded boundary (.map (setEntry (.text k) (.file f) entries)) scene = .ok form) ∧
    ∀ document form, encoded boundary (.map entries) scene = .ok document →
      encoded boundary (.map (setEntry (.text k) (.file f) entries)) scene = .ok form →
      ∃ members, SameFields boundary ⟨k,some f.filename,.bytes data⟩ (.map entries) document form
        members := by
  have without : (ofParameters (.map entries)).attachments = [] := withoutFiles rfl remote
  have file : Part.Sendable ⟨k,some f.filename,.bytes data⟩ :=
    ⟨key,fun other same => Option.some.inj same ▸ name,fun same => by cases same⟩
  have sendable (members : List (Text × Json)) :
      (∃ body, Multipart.encodeParts boundary
        (⟨k,some f.filename,.bytes data⟩ :: members.map formPart) = .ok body) ↔
      ∀ member ∈ members, (formPart member).Sendable := by
    rw [Multipart.encodesParts,List.forall_mem_cons,List.forall_mem_map]
    exact ⟨And.right,And.intro file⟩
  refine ⟨⟨?_,?_⟩,?_⟩
  · rintro ⟨document,alone⟩
    obtain ⟨shown,_,members,written,each,_⟩ := (aloneSome without).mp alone
    obtain ⟨body,parts⟩ := (sendable members).mpr each
    exact ⟨⟨_,body⟩,(togetherSome without isLocal new held readable).mpr
      ⟨shown,rfl,members,written,parts⟩⟩
  · rintro ⟨form,together⟩
    obtain ⟨shown,_,members,written,parts⟩ :=
      (togetherSome without isLocal new held readable).mp together
    have each := (sendable members).mp ⟨_,parts⟩
    exact ⟨⟨_,_⟩,(aloneSome without).mpr ⟨shown,rfl,members,written,each,rfl⟩⟩
  · intro document form alone together
    obtain ⟨_,documentType,members,written,each,body⟩ := (aloneSome without).mp alone
    obtain ⟨_,formType,others,again,parts⟩ :=
      (togetherSome without isLocal new held readable).mp together
    cases written.symm.trans again
    refine ⟨members,?_,documentType,?_,formType,parts⟩
    · rw [toJsonNames written,fieldsWithoutFiles rfl remote]
    · exact encodeSome.mpr ⟨(writeObjectEncodable members).mpr each,body⟩

def greeting : List (Value × Value) :=
  [(.text "chat_id",.int 42),(.text "caption",.text "hi"),(.text "reply",.null),
    (.text "media",.list [.file ⟨some "id",none,none⟩,.bool true])]

theorem greetingAgrees :
    let photo : InputFile := ⟨none,none,some ⟨0,"NamedBytes",⟨"a.png","'a.png'",false⟩⟩⟩
    let scene : Scene Shelf := ⟨.empty,[(0,.buffered ⟨ascii "1",0⟩)]⟩
    ∃ document form members, encoded "B" (.map greeting) scene = .ok document ∧
      encoded "B" (.map (setEntry (.text "photo") (.file photo) greeting)) scene = .ok form ∧
      SameFields "B" ⟨"photo",some "a.png",.bytes (ascii "1")⟩ (.map greeting) document form
        members := by
  intro photo scene
  have remote : ∀ trail g, (Value.map greeting).Within trail (.file g) → g.isLocal = false :=
    remoteOnly rfl
  have new : ∀ entry ∈ greeting, entry.1.display ≠ ("photo" : Text) := by
    simp only [greeting,List.forall_mem_cons,display]
    decide
  have name : Encodable photo.filename := stringEncodable "a.png"
  have readable : ((Attachment.read "photo" ⟨0,"NamedBytes",⟨"a.png","'a.png'",false⟩⟩).perform scene).1 =
      .ok (ascii "1") := rfl
  obtain ⟨alike,same⟩ := addedFileAgrees remote new (stringEncodable "photo") rfl name rfl readable
  obtain ⟨document,alone⟩ : ∃ document, encoded "B" (.map greeting) scene = .ok document := ⟨_,rfl⟩
  obtain ⟨form,together⟩ := alike.mp ⟨document,alone⟩
  obtain ⟨members,fields⟩ := same document form alone together
  exact ⟨document,form,members,alone,together,fields⟩

end Payload
end BotGateway
