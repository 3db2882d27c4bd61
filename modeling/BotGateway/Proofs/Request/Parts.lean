import BotGateway.Proofs.Text.Encodable
import BotGateway.Request.Multipart

/-! When parts can be encoded: exactly when their names, their file names and their texts can. -/
namespace BotGateway
open Utf8

namespace MediaType

variable {p : Text → Prop}

theorem ofExtensionAmong (table : ∀ entry ∈ byExtension, p entry.2) (other : p unknown)
    (extension : Option Text) : p (ofExtension extension) := by
  cases extension with
  | none => exact other
  | some e =>
    cases found : find? (Case.lower e) byExtension with
    | none =>
      rw [ofExtension,found]
      exact other
    | some t =>
      rw [ofExtension,found]
      obtain ⟨entry,among,rfl⟩ := Option.map_eq_some_iff.mp found
      exact table entry (List.mem_of_find?_eq_some among)

theorem ofNameAmong (table : ∀ entry ∈ byExtension, p entry.2) (other : p unknown) (name : Text) :
    p (ofName name) := by
  unfold ofName
  dsimp only
  split
  · exact other
  · split
    · exact ofExtensionAmong table other _
    · split
      · exact ofExtensionAmong table other _
      · exact ofExtensionAmong table other _

theorem guessAmong (table : ∀ entry ∈ byExtension, p entry.2) (other : p unknown) (plain : p "text/plain")
    (name : Text) : p (guess name) := by
  unfold guess
  split
  · split
    · split
      · exact plain
      · exact other
    · exact ofNameAmong table other _
  · exact ofNameAmong table other _

theorem guessEncodable (name : Text) : Encodable (guess name) :=
  guessAmong (fun _ _ => stringEncodable _) (stringEncodable _) (stringEncodable _) name

end MediaType

namespace Part

structure Sendable (part : Part) : Prop where
  name : Encodable part.name
  fileName : ∀ fileName ∈ part.fileName, Encodable fileName
  data : ∀ {t}, part.data = .text t → Encodable t

theorem quotedOneEncodable (c : CodePoint) : Encodable (quotedOne c) ↔ isSurrogate c = false := by
  unfold quotedOne
  split
  · rename_i mark
    simp [eq_of_beq mark,charEncodable]
  · split
    · rename_i feed
      simp [eq_of_beq feed,charEncodable]
    · split
      · rename_i back
        simp [eq_of_beq back,charEncodable]
      · simp [encodableNil]

theorem quotedNameEncodable (name : Text) : Encodable (quotedName name) ↔ Encodable name := by
  simp only [quotedName,encodableAppend,stringEncodable,encodableFlatMap,quotedOneEncodable,
    true_and,and_true]
  rfl

theorem headerEncodable (part : Part) : Encodable part.header ↔
    Encodable part.name ∧ ∀ fileName ∈ part.fileName, Encodable fileName := by
  obtain ⟨name,fileName,data⟩ := part
  cases fileName with
  | none => simp [header,lineEnd,quotedNameEncodable]
  | some fileName => simp [header,lineEnd,quotedNameEncodable,MediaType.guessEncodable]

theorem sendableEncodes {part : Part} (sendable : part.Sendable) (boundary : Text) :
    ∃ raw, part.encode boundary = .ok raw := by
  have header : Utf8.encode part.header = .ok (bytesOf part.header) :=
    encodeEncodable ((headerEncodable part).mpr ⟨sendable.name,sendable.fileName⟩)
  cases data : part.data with
  | bytes raw => exact ⟨_,by simp only [Part.encode,header,data,PartData.encode]; rfl⟩
  | text t =>
    have content := encodeEncodable (sendable.data data)
    exact ⟨_,by simp only [Part.encode,header,data,PartData.encode,content]; rfl⟩

theorem encodedSendable {part : Part} {boundary raw} (encoded : part.encode boundary = .ok raw) :
    part.Sendable := by
  simp only [Part.encode,bind,Except.bind] at encoded
  split at encoded
  · cases encoded
  · rename_i header first
    split at encoded
    · cases encoded
    · rename_i content second
      obtain ⟨name,fileName⟩ := (headerEncodable part).mp (encodedEncodable first)
      refine ⟨name,fileName,fun {t} data => ?_⟩
      rw [data,PartData.encode] at second
      exact encodedEncodable second

end Part

namespace Multipart

theorem encodesParts (boundary : Text) (parts : List Part) :
    (∃ raw, encodeParts boundary parts = .ok raw) ↔ ∀ part ∈ parts, part.Sendable := by
  induction parts with
  | nil => simp [encodeParts]
  | cons part rest ih =>
    rw [List.forall_mem_cons,← ih]
    constructor
    · rintro ⟨raw,encoded⟩
      simp only [encodeParts,bind,Except.bind] at encoded
      split at encoded
      · cases encoded
      · rename_i first encodedFirst
        split at encoded
        · cases encoded
        · rename_i others encodedRest
          exact ⟨Part.encodedSendable encodedFirst,others,encodedRest⟩
    · rintro ⟨sendable,others,encodedRest⟩
      obtain ⟨first,encodedFirst⟩ := Part.sendableEncodes sendable boundary
      exact ⟨first ++ others,by simp only [encodeParts,encodedFirst,encodedRest]; rfl⟩

end Multipart
end BotGateway
