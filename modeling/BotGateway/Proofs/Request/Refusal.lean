import BotGateway.Proofs.Request.Encoding
import BotGateway.Proofs.Request.Prepared
import BotGateway.Proofs.Text.Encodable

/-! What encoding a request fails with. Every ordinary failure is one of encoding, but for two: a key
that has no text, and a source that gives a text with a lone surrogate. -/
namespace BotGateway
open Utf8 BotGateway.Action

namespace Shelf

theorem findPut {handle other : Nat} (apart : other ≠ handle) (behaviour : Behaviour) (shelf : Shelf) :
    (shelf.put handle behaviour).find other = shelf.find other := by
  induction shelf with
  | nil => simp [put,find,List.lookup_cons,beq_false_of_ne apart]
  | cons entry rest ih =>
    obtain ⟨h,held⟩ := entry
    simp only [find] at ih
    by_cases same : h = handle
    · simp [put,find,same,List.lookup_cons,beq_false_of_ne apart]
    · simp only [put,if_neg same,find,List.lookup_cons]
      split
      · rfl
      · exact ih

end Shelf

def Mild (result : Except Failure α) : Prop :=
  ∀ failure, result = .error failure → failure.kind.isOrdinary → failure.kind = .encode

theorem mildOk {a : α} : Mild (.ok a : Except Failure α) := by
  intro failure failed
  cases failed

theorem mildError {failure : Failure} : Mild (.error failure : Except Failure α) ↔
    (failure.kind.isOrdinary → failure.kind = .encode) := by
  simp [Mild]

theorem mildMap (f : α → β) {result : Except Failure α} : Mild (result.map f) ↔ Mild result := by
  cases result <;> simp [Mild,Except.map]

namespace Attachment

def Gives (shelf : Shelf) (attachment : Attachment) (value : Value) : Prop :=
  ∃ source, attachment.file.content = some source ∧
    (shelf.find source.handle).readAll.1 = .ok value

def Legible (shelf : Shelf) (attachment : Attachment) : Prop :=
  (∃ raw, attachment.Gives shelf (.bytes raw)) ∨
    ∃ t, attachment.Gives shelf (.text t) ∧ Encodable t

def Wild (shelf : Shelf) (attachment : Attachment) : Prop :=
  ∃ t, attachment.Gives shelf (.text t) ∧ ¬Encodable t

inductive MeetsWild (shelf : Shelf) : List Attachment → Prop where
  | here {attachment rest} (wild : attachment.Wild shelf) : MeetsWild shelf (attachment :: rest)
  | later {attachment rest} (legible : attachment.Legible shelf) (further : MeetsWild shelf rest) :
      MeetsWild shelf (attachment :: rest)

def given (shelf : Shelf) (part : Text) (source : Source) : Except Failure Bytes :=
  match (shelf.find source.handle).readAll.1 with
  | .ok value => bytesOfRead part value
  | .error failure => .error (unreadable part failure)

variable {shelf : Shelf} {contents : Contents} {attachment : Attachment} {rest : List Attachment}
  {source : Source} {part : Text} {value : Value}

theorem givesExactly (held : attachment.file.content = some source) :
    attachment.Gives shelf value ↔ (shelf.find source.handle).readAll.1 = .ok value := by
  simp [Gives,held]

theorem textMild {t : Text} : Mild (bytesOfRead part (.text t)) ↔ Encodable t := by
  by_cases encodable : Encodable t
  · simp [bytesOfRead,encodeEncodable encodable,mildOk,encodable]
  · cases encoded : Utf8.encode t with
    | ok raw => exact absurd (encodedEncodable encoded) encodable
    | error found =>
      simp [bytesOfRead,encoded,mildError,encodable,Failure.kind,Failure.Kind.isOrdinary]

theorem unreadableMild (failure : Failure) :
    Mild (.error (unreadable part failure) : Except Failure Bytes) := by
  rw [mildError,unreadable]
  split
  · exact fun _ => rfl
  · intro ordinary
    contradiction

theorem givenMild (shelf : Shelf) (part : Text) (held : attachment.file.content = some source) :
    Mild (given shelf part source) ↔ ¬attachment.Wild shelf := by
  simp only [Wild,givesExactly held,given]
  cases read : (shelf.find source.handle).readAll.1 with
  | error failure => simp [unreadableMild]
  | ok value =>
    cases value with
    | text t => simp [textMild]
    | bytes raw => simp [bytesOfRead,mildOk]
    | _ => simp [bytesOfRead,mildError,Failure.kind]

theorem givenLegible (shelf : Shelf) (part : Text) (held : attachment.file.content = some source) :
    (∃ raw, given shelf part source = .ok raw) ↔ attachment.Legible shelf := by
  simp only [Legible,givesExactly held,given]
  cases read : (shelf.find source.handle).readAll.1 with
  | error failure => simp
  | ok value =>
    cases value with
    | text t =>
      cases encoded : Utf8.encode t with
      | ok raw => simp [bytesOfRead,encoded,encodedEncodable encoded]
      | error found =>
        have wild : ¬Encodable t := fun encodable => by simp [encodeEncodable encodable] at encoded
        simp [bytesOfRead,encoded,wild]
    | _ => simp [bytesOfRead]

structure Kept (shelf : Shelf) (contents : Contents) (now : Shelf) : Prop where
  read : ∀ {source raw}, contents.lookup source.handle = some raw →
    ∀ part, given shelf part source = .ok raw
  unread : ∀ {handle}, contents.lookup handle = none → now.find handle = shelf.find handle

theorem keptAll (shelf : Shelf) : Kept shelf [] shelf := ⟨nofun,fun _ => rfl⟩

theorem givenAgain {raw} (read : given shelf part source = .ok raw) (other : Text) :
    given shelf other source = .ok raw := by
  unfold given at read ⊢
  split at read
  · rename_i value _
    cases value with
    | bytes held => exact read
    | text t => exact read
    | _ => cases read
  · cases read

theorem readGiven (part : Text) {scene : Scene Shelf}
    (same : scene.world.find source.handle = shelf.find source.handle) :
    (read part source).perform scene = (given shelf part source,⟨scene.journal,
      scene.world.put source.handle (scene.world.find source.handle).readAll.2⟩) := by
  unfold read given
  rw [perform_bind,perform_current,← same]
  dsimp only
  rw [perform_bind,perform_change]
  cases (scene.world.find source.handle).readAll.1 with
  | error failure => rfl
  | ok value => cases bytesOfRead part value <;> rfl

theorem contentGiven (part : Text) (source : Source) {scene : Scene Shelf}
    (kept : Kept shelf contents scene.world) :
    ∃ after, (contentOf contents part source).perform scene = (given shelf part source,after) ∧
      ∀ raw, given shelf part source = .ok raw →
        Kept shelf ((source.handle,raw) :: contents) after.world := by
  have keeps {now : Shelf} (elsewhere : ∀ handle, handle ≠ source.handle →
      now.find handle = scene.world.find handle) (raw : Bytes)
      (gave : given shelf part source = .ok raw) :
      Kept shelf ((source.handle,raw) :: contents) now := by
    constructor
    · intro other bytes found other_part
      rw [List.lookup_cons] at found
      split at found
      · rename_i same
        cases found
        have handle : other.handle = source.handle := eq_of_beq same
        rw [given,handle]
        exact givenAgain gave other_part
      · exact kept.read found other_part
    · intro handle missing
      rw [List.lookup_cons] at missing
      split at missing
      · cases missing
      · rename_i different
        rw [elsewhere handle (ne_of_beq_false different),kept.unread missing]
  cases known : contents.lookup source.handle with
  | some raw =>
    rw [contentOf,known,kept.read known part]
    exact ⟨scene,rfl,fun raw gave => keeps (fun _ _ => rfl) raw (kept.read known part ▸ gave)⟩
  | none =>
    rw [contentOf,known]
    exact ⟨_,readGiven part (kept.unread known),keeps fun handle apart => Shelf.findPut apart _ _⟩

theorem partsMild {attachments : List Attachment} {scene : Scene Shelf}
    (kept : Kept shelf contents scene.world) :
    Mild ((parts contents attachments).perform scene).1 ↔ ¬MeetsWild shelf attachments := by
  induction attachments generalizing contents scene with
  | nil =>
    have none : ¬MeetsWild shelf [] := fun met => by cases met
    simp [parts,mildOk,none]
  | cons attachment rest ih =>
    cases held : attachment.file.content with
    | none =>
      have unmet : ¬MeetsWild shelf (attachment :: rest) := by
        rintro (⟨_,⟨_,here,_⟩,_⟩ | ⟨⟨_,_,here,_⟩ | ⟨_,⟨_,here,_⟩,_⟩,_⟩) <;>
          cases held.symm.trans here
      rw [parts,held]
      simp [mildError,Failure.kind,unmet]
    | some source =>
      obtain ⟨after,first,keeps⟩ := contentGiven attachment.partName source kept
      have wild := givenMild shelf attachment.partName held
      have legible := givenLegible shelf attachment.partName held
      rw [partsWithSource held,perform_bind,first]
      cases gave : given shelf attachment.partName source with
      | error failure =>
        -- The rest is not read: whether a wild text is met depends on this source alone.
        have met : MeetsWild shelf (attachment :: rest) ↔ attachment.Wild shelf := by
          constructor
          · rintro (here | ⟨readable,_⟩)
            · exact here
            · obtain ⟨raw,ok⟩ := legible.mpr readable
              cases gave.symm.trans ok
          · exact .here
        rw [met,← wild,gave,mildError,mildError]
      | ok raw =>
        have met : MeetsWild shelf (attachment :: rest) ↔ MeetsWild shelf rest := by
          constructor
          · rintro (here | ⟨_,further⟩)
            · exact absurd here (wild.mp (gave ▸ mildOk))
            · exact further
          · exact .later (legible.mp ⟨raw,gave⟩)
        rw [met,← ih (keeps raw gave)]
        simp only [bind_pure_comp,perform_map]
        exact mildMap _

end Attachment

def Value.isArguments : Value → Bool
  | .null | .file _ => true
  | parameters => parameters.isParameters

namespace Payload
open Prepared Attachment

structure Manageable (parameters : Value) (shelf : Shelf) : Prop where
  keys : parameters.hasLongKey = false
  texts : ¬MeetsWild shelf (ofParameters parameters).attachments

variable {boundary : Text} {prepared : Prepared} {parameters : Value} {scene : Scene Shelf}

theorem preparedMild : Mild ((ofPrepared boundary prepared).perform scene).1 ↔
    ¬MeetsWild scene.world prepared.attachments := by
  by_cases without : prepared.attachments = []
  · have unmet : ¬MeetsWild scene.world [] := fun met => by cases met
    rw [encodedDocument without,without]
    cases encodeDocument prepared.document <;> simp [mildOk,mildError,Failure.kind,unmet]
  · rw [← partsMild (keptAll scene.world),ofPrepared,if_neg (by simpa using without),perform_bind]
    rcases (parts [] prepared.attachments).perform scene with ⟨failure | files,after⟩
    · simp [mildError]
    · dsimp only
      cases joined : encodeMultipart boundary files prepared.fields <;>
        simp [mildMap,mildOk,mildError,Failure.kind]

theorem mildExactly (_ : parameters.isArguments) :
    (∀ failure, ((encode boundary parameters).perform scene).1 = .error failure →
      failure.kind.isOrdinary → failure.kind = .encode) ↔ Manageable parameters scene.world := by
  cases long : parameters.hasLongKey with
  | true =>
    have unmanageable : ¬Manageable parameters scene.world := fun manageable => by
      cases long.symm.trans manageable.keys
    rw [encodeUnshown long]
    simp [Failure.kind,Failure.Kind.isOrdinary,unmanageable]
  | false =>
    rw [encodeShown long]
    exact preparedMild.trans ⟨fun texts => ⟨long,texts⟩,Manageable.texts⟩

def memo : Value :=
  .map [(.text "doc",.file ⟨none,none,some ⟨0,"Reader",⟨"a.txt","'a.txt'",false⟩⟩⟩)]

theorem unreadMemoRefused :
    let scene : Scene Shelf := ⟨.empty,[(0,.failsToRead (.raised .os "gone"))]⟩
    memo.isArguments ∧ ∃ failure, ((encode "B" memo).perform scene).1 = .error failure ∧
      failure.kind.isOrdinary ∧ failure.kind = .encode := by
  intro scene
  have texts : ¬MeetsWild scene.world (ofParameters memo).attachments := by
    rintro (⟨t,⟨_,⟨⟩,⟨⟩⟩,_⟩ | ⟨_,further⟩)
    cases further
  have refused : ((encode "B" memo).perform scene).1 =
      .error (.fileUnreadable "doc" (.raised .os "gone")) := rfl
  exact ⟨rfl,_,refused,rfl,(mildExactly rfl).mpr ⟨rfl,texts⟩ _ refused rfl⟩

theorem strayMemoEscapes : ∃ failure, memo.isArguments ∧
    ((encode "B" memo).perform ⟨.empty,[(0,.yields (.text [CodePoint.ofNat 0xD800]))]⟩).1 =
      .error failure ∧
    failure.kind.isOrdinary ∧ failure.kind ≠ .encode :=
  ⟨.unencodable ⟨0,CodePoint.ofNat 0xD800,1⟩,rfl,rfl,rfl,by decide⟩

end Payload
end BotGateway
