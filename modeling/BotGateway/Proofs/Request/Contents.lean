import BotGateway.Proofs.Except
import BotGateway.Proofs.Request.Refusal
import Mathlib.Data.List.Forall2

/-! The file parts of a request, by what the sources give on the shelf. A source is read where it first
comes up, and what it gave then is in every part that is made from it. -/
namespace BotGateway
open BotGateway.Action

namespace Attachment

variable {shelf : Shelf} {contents : Contents} {attachments : List Attachment} {files : List Part}

def partsOn (shelf : Shelf) : List Attachment → Except Failure (List Part)
  | [] => .ok []
  | attachment :: rest =>
    match attachment.file.content with
    | none => .error (.fileNotBytes attachment.partName Value.null.typeName)
    | some source => do
      let raw ← given shelf attachment.partName source
      let others ← partsOn shelf rest
      return filePart attachment raw :: others

theorem partsGiven {scene : Scene Shelf} (kept : Kept shelf contents scene.world) :
    ((parts contents attachments).perform scene).1 = partsOn shelf attachments := by
  induction attachments generalizing contents scene with
  | nil => rfl
  | cons attachment rest ih =>
    cases held : attachment.file.content with
    | none =>
      rw [parts,partsOn,held]
      rfl
    | some source =>
      obtain ⟨after,first,keeps⟩ := contentGiven attachment.partName source kept
      rw [partsWithSource held,perform_bind,first,partsOn,held]
      dsimp only
      cases gave : given shelf attachment.partName source with
      | error failure => rfl
      | ok raw =>
        simp only [bind_pure_comp,perform_map,ih (keeps raw gave)]
        rfl

theorem partsRead {scene after : Scene Shelf}
    (read : (parts [] attachments).perform scene = (.ok files,after)) :
    partsOn scene.world attachments = .ok files := by
  rw [← partsGiven (keptAll scene.world),read]

structure Carries (shelf : Shelf) (part : Part) (f : InputFile) : Prop where
  fileName : part.fileName = some f.filename
  content : ∃ source raw, f.content = some source ∧ given shelf part.name source = .ok raw ∧
    part.data = .bytes raw

theorem partsOnCarry (read : partsOn shelf attachments = .ok files) :
    List.Forall₂ (fun attachment part =>
      part.name = attachment.partName ∧ Carries shelf part attachment.file) attachments files := by
  induction attachments generalizing files with
  | nil =>
    cases read
    exact .nil
  | cons attachment rest ih =>
    cases held : attachment.file.content with
    | none =>
      rw [partsOn,held] at read
      cases read
    | some source =>
      rw [partsOn,held] at read
      obtain ⟨raw,gave,read⟩ := exceptOk.mp read
      obtain ⟨others,later,same⟩ := exceptOk.mp read
      cases same
      exact .cons ⟨rfl,rfl,source,raw,held,gave,rfl⟩ (ih later)

end Attachment
end BotGateway
