import BotGateway.Proofs.Request.Encoding
import BotGateway.Proofs.Request.Prepared
import Mathlib.Data.List.Nodup

/-! The names of the parts of a request. They come from the ways to the files and from the fields,
and differ exactly when no two of these ways read the same and none reads like a field. -/
namespace BotGateway
open Value

namespace Value

theorem LocalFiles.placesDiffer {value : Value} {found} (files : value.LocalFiles found) :
    (found.map (·.1.places)).Nodup := by
  refine List.pairwise_map.mpr (files.ordered.imp fun before same => ?_)
  rw [same] at before
  exact List.lt_irrefl _ before

theorem LocalFiles.one {value : Value} {found} (files : value.LocalFiles found) {a b}
    (left : a ∈ found) (right : b ∈ found) (same : a.1 = b.1) : a = b := by
  refine List.inj_on_of_nodup_map files.placesDiffer left right ?_
  exact congrArg Trail.places same

end Value

namespace Prepared

structure NamesApart (parameters : Value) : Prop where
  files : ∀ {trail other : Trail} {f g}, f.isLocal → g.isLocal →
    parameters.Within trail (.file f) → parameters.Within other (.file g) →
    Attachment.nameOf trail.names = Attachment.nameOf other.names → trail = other
  fields : ∀ {trail : Trail} {f member}, f.isLocal → parameters.Within trail (.file f) →
    member ∈ parameters.members → member.2.isPart = false →
    Attachment.nameOf trail.names ≠ member.1

theorem fieldsNames (parameters : Value) (name : Text) :
    name ∈ (ofParameters parameters).fields.map (·.1) ↔
      ∃ member ∈ parameters.members, member.2.isPart = false ∧ member.1 = name := by
  rw [fieldsWired,lastOfEachNames,wiredMembers,List.map_map]
  simp [wireChild,and_assoc]

theorem attachNamesNodup {value : Value} {found} (files : value.LocalFiles found) (path : List Text) :
    ((attach path found).map (·.partName)).Nodup ↔
      ∀ a ∈ found, ∀ b ∈ found,
        Attachment.nameOf (path ++ a.1.names) = Attachment.nameOf (path ++ b.1.names) →
        a.1 = b.1 := by
  have distinct : found.Nodup := List.Nodup.of_map _ files.placesDiffer
  have names : (attach path found).map (·.partName) =
      found.map fun entry => Attachment.nameOf (path ++ entry.1.names) := by
    simp [attach]
  rw [names,List.nodup_map_iff_inj_on distinct]
  constructor
  · intro apart a left b right same
    exact congrArg Prod.fst (apart a left b right same)
  · intro apart a left b right same
    exact files.one left right (apart a left b right same)

theorem partNamesNodup {parameters : Value} (given : parameters.isParameters) :
    ((ofParameters parameters).attachments.map (·.partName) ++
      (ofParameters parameters).fields.map (·.1)).Nodup ↔ NamesApart parameters := by
  obtain ⟨found,files,attached⟩ := attachmentsAlong parameters
  rw [attachmentsFound given,attached,List.nodup_append,attachNamesNodup files []]
  constructor
  · rintro ⟨ways,_,apart⟩
    constructor
    · intro trail other f g fLocal gLocal left right same
      exact ways (trail,f) (files.exact.mpr ⟨fLocal,left⟩) (other,g) (files.exact.mpr ⟨gLocal,right⟩)
        same
    · intro trail f member isLocal within among notPart same
      refine apart _ (List.mem_map.mpr ⟨⟨Attachment.nameOf trail.names,f⟩,?_,rfl⟩) _
        ((fieldsNames parameters _).mpr ⟨member,among,notPart,rfl⟩) same
      exact List.mem_map.mpr ⟨(trail,f),files.exact.mpr ⟨isLocal,within⟩,rfl⟩
  · intro apart
    refine ⟨?_,lastOfEachNodup _,?_⟩
    · intro a left b right same
      obtain ⟨aLocal,aWithin⟩ := files.exact.mp left
      obtain ⟨bLocal,bWithin⟩ := files.exact.mp right
      exact apart.files aLocal bLocal aWithin bWithin same
    · intro name left other right same
      obtain ⟨attachment,attaches,rfl⟩ := List.mem_map.mp left
      obtain ⟨⟨trail,f⟩,entry,rfl⟩ := List.mem_map.mp attaches
      obtain ⟨member,among,notPart,rfl⟩ := (fieldsNames parameters _).mp right
      obtain ⟨isLocal,within⟩ := files.exact.mp entry
      exact apart.fields isLocal within among notPart same

end Prepared

namespace Payload
open Prepared

theorem partsApart {parameters : Value} {boundary} {scene after : Scene Shelf} {payload}
    (given : parameters.isParameters) (having : (ofParameters parameters).attachments ≠ [])
    (sent : (encode boundary parameters).perform scene = (.ok payload,after)) :
    ∃ parts, Multipart.encodeParts boundary parts = .ok payload.body ∧
      payload.contentType = Multipart.contentType boundary ∧
      parts.map (·.name) = (ofParameters parameters).attachments.map (·.partName) ++
        (ofParameters parameters).fields.map (·.1) ∧
      ((parts.map (·.name)).Nodup ↔ NamesApart parameters) := by
  rw [encodeShown (encodedShown sent)] at sent
  obtain ⟨files,form,mid,read,written,encoded,multipart⟩ := encodedParts having sent
  have names : (files ++ form).map (·.name) = (ofParameters parameters).attachments.map (·.partName) ++
      (ofParameters parameters).fields.map (·.1) := by
    rw [List.map_append,Attachment.partsNames read,formPartsNames written]
  exact ⟨files ++ form,encoded,multipart,names,names ▸ partNamesNodup given⟩

def shelf : Shelf := [(0,.buffered ⟨ascii "1",0⟩),(1,.buffered ⟨ascii "2",0⟩)]

theorem albumPartsApart : ∃ payload after,
    (encode "B" album).perform ⟨.empty,shelf⟩ = (.ok payload,after) ∧
    ∃ parts, Multipart.encodeParts "B" parts = .ok payload.body ∧
      payload.contentType = Multipart.contentType "B" ∧
      parts.map (·.name) = (ofParameters album).attachments.map (·.partName) ++
        (ofParameters album).fields.map (·.1) ∧
      ((parts.map (·.name)).Nodup ↔ NamesApart album) := by
  obtain ⟨payload,after,sent⟩ :
      ∃ payload after, (encode "B" album).perform ⟨.empty,shelf⟩ = (.ok payload,after) := ⟨_,_,rfl⟩
  exact ⟨payload,after,sent,partsApart rfl (by decide) sent⟩

def clash : Value :=
  let named (handle : Nat) (name : Text) : InputFile :=
    ⟨none,none,some ⟨handle,"NamedBytes",⟨name,Quoted.text name,false⟩⟩⟩
  .map [(.text "a",.map [(.text "b",.file (named 0 "x.txt"))]),(.text "a_b",.file (named 1 "y.txt"))]

theorem clashSharesName : ∃ payload after parts,
    (encode "B" clash).perform ⟨.empty,shelf⟩ = (.ok payload,after) ∧
    Multipart.encodeParts "B" parts = .ok payload.body ∧
    parts.map (·.name) = ["a_b","a_b","a"] ∧ ¬(parts.map (·.name)).Nodup := by
  obtain ⟨payload,after,sent⟩ :
      ∃ payload after, (encode "B" clash).perform ⟨.empty,shelf⟩ = (.ok payload,after) := ⟨_,_,rfl⟩
  have prepared := sent
  rw [encodeShown (show clash.hasLongKey = false from rfl)] at prepared
  obtain ⟨files,form,mid,read,written,encoded,_⟩ := encodedParts (by decide) prepared
  have names : (files ++ form).map (·.name) = ["a_b","a_b","a"] := by
    rw [List.map_append,Attachment.partsNames read,formPartsNames written]
    decide
  exact ⟨payload,after,files ++ form,sent,encoded,names,by rw [names]; decide⟩

end Payload
end BotGateway
