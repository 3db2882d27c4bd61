import BotGateway.Proofs.Request.Wire

/-! Parameters split into fields and file parts. Every local file is a part, in order; what stands
for it in the document names that part, and a local file among the parameters is no field. -/
namespace BotGateway

namespace Value

def isParameters : Value → Bool
  | .map _ | .record _ _ => true
  | _ => false

theorem parametersChildren {parameters : Value} (given : parameters.isParameters) :
    parameters.children = parameters.members := by
  cases parameters with
  | map entries => rfl
  | record kind fields => rfl
  | _ => cases given

theorem lookupMember {fields : List (Text × Value)} (nodup : (fields.map (·.1)).Nodup) {name value}
    (member : (name,value) ∈ fields) : fields.lookup name = some value := by
  obtain ⟨i,placed⟩ := List.mem_iff_getElem?.mp member
  exact lookupAt nodup placed

theorem memberOnce {parameters : Value} (keyed : parameters.Keyed) {name a b}
    (first : (name,a) ∈ parameters.members) (second : (name,b) ∈ parameters.members) : a = b := by
  have names : (parameters.members.map (·.1)).Nodup := by
    cases keyed with
    | node names below => exact names
  have same : some a = some b := by rw [← lookupMember names first,lookupMember names second]
  exact Option.some.inj same

theorem notPart {child : Value} {trail f} (within : child.Within trail (.file f))
    (kept : trail ≠ [] ∨ f.isLocal = false) : child.isPart = false := by
  cases child with
  | file held =>
    obtain ⟨here,same⟩ := withinFile.mp within
    cases same
    exact kept.elim (fun nested => absurd here nested) id
  | _ => rfl

end Value

namespace InputFile

theorem givenNotEmpty {reference : Option Text} {t : Text} (found : given reference = some t) :
    reference = some t ∧ t ≠ [] := by
  obtain ⟨same,kept⟩ := Option.filter_eq_some_iff.mp found
  exact ⟨same,by simpa using kept⟩

theorem remoteRefGiven {f : InputFile} (remote : f.isLocal = false) : f.remoteRef ≠ [] ∧
    (f.fileId = some f.remoteRef ∨ given f.fileId = none ∧ f.url = some f.remoteRef) := by
  cases id : given f.fileId with
  | some fileId =>
    have same : f.remoteRef = fileId := by simp [remoteRef,id]
    obtain ⟨here,notEmpty⟩ := givenNotEmpty id
    exact ⟨same ▸ notEmpty,.inl (same ▸ here)⟩
  | none =>
    cases address : given f.url with
    | none => simp [isLocal,id,address] at remote
    | some url =>
      have same : f.remoteRef = url := by simp [remoteRef,id,address]
      obtain ⟨here,notEmpty⟩ := givenNotEmpty address
      exact ⟨same ▸ notEmpty,.inr ⟨rfl,same ▸ here⟩⟩

end InputFile

namespace Prepared
open Value

variable {parameters : Value}

def wiredMembers (parameters : Value) : List (Text × Value) :=
  (parameters.members.filter fun member => !member.2.isPart).map (wireChild [])

theorem fieldsWired (parameters : Value) :
    (ofParameters parameters).fields = lastOfEach (wiredMembers parameters) := rfl

theorem wiredMembersNames (keyed : parameters.Keyed) :
    ((wiredMembers parameters).map (·.1)).Nodup := by
  have names : (parameters.members.map (·.1)).Nodup := by
    cases keyed with
    | node names below => exact names
  rw [wiredMembers,List.map_map]
  exact names.sublist (List.filter_sublist.map _)

theorem wiredMembersNotNull {field} (member : field ∈ wiredMembers parameters) :
    field.2.isNull = false := by
  obtain ⟨child,kept,rfl⟩ := List.mem_map.mp member
  exact wireNotNull (memberNotNull (List.mem_filter.mp kept).1)

theorem documentChildren (parameters : Value) :
    (ofParameters parameters).document.children = (ofParameters parameters).fields := by
  have notNull : ∀ field ∈ (ofParameters parameters).fields, field.2.isNull = false :=
    fun field member => wiredMembersNotNull (lastOfEachMember member)
  rw [document,ofFieldsChildren notNull,fieldsWired,lastOfEachSame (lastOfEachNodup _)]

theorem attachmentsFound (given : parameters.isParameters) :
    (ofParameters parameters).attachments = parameters.attachments [] := by
  have folder : ∀ f, parameters ≠ .file f := by
    rintro f rfl
    cases given
  rw [attachmentsBelow folder,parametersChildren given]
  rfl

theorem documentFound (given : parameters.isParameters) (keyed : parameters.Keyed)
    {i : Nat} {name} {child inner : Value} {rest : Trail} (placed : parameters.children[i]? = some (name,child))
    (next : child.Within rest inner) (kept : child.isPart = false) :
    (ofParameters parameters).document.find? (name :: rest.names) =
      some (inner.wire (name :: rest.names)) := by
  have member : (name,child) ∈ parameters.children := List.mem_of_getElem? placed
  have wired : (name,child.wire [name]) ∈ wiredMembers parameters := by
    rw [parametersChildren given] at member
    exact List.mem_map.mpr ⟨(name,child),List.mem_filter.mpr ⟨member,by simp [kept]⟩,rfl⟩
  have fields : (ofParameters parameters).fields = wiredMembers parameters :=
    lastOfEachSame (wiredMembersNames keyed)
  simp only [find?,documentChildren,fields,lookupMember (wiredMembersNames keyed) wired]
  have below : (child.wire [name]).find? rest.names = some (inner.wire ([name] ++ rest.names)) :=
    wireFound (keyed.child member) next
  simpa using below

structure FilesKept (parameters : Value) (prepared : Prepared) : Prop where
  attached : ∃ found, parameters.LocalFiles found ∧ prepared.attachments = attach [] found
  top : ∀ {step f}, parameters.Within [step] (.file f) → f.isLocal →
    step.2 ∉ prepared.fields.map (·.1)
  nested : ∀ {step next rest f}, parameters.Within (step :: next :: rest) (.file f) → f.isLocal →
    prepared.document.find? (Trail.names (step :: next :: rest)) = some
      (.text (Attachment.placeholder (Attachment.nameOf (Trail.names (step :: next :: rest)))))
  remote : ∀ {trail f}, parameters.Within trail (.file f) → f.isLocal = false →
    prepared.document.find? trail.names = some (.text f.remoteRef) ∧ f.remoteRef ≠ [] ∧
      (f.fileId = some f.remoteRef ∨
        InputFile.given f.fileId = none ∧ f.url = some f.remoteRef)
  plain : ∀ {trail inner}, prepared.document.Within trail inner →
    (∀ f, inner ≠ .file f) ∧ ∀ kind fields, inner ≠ .record kind fields

theorem partNoField (given : parameters.isParameters) (keyed : parameters.Keyed) {step f}
    (within : parameters.Within [step] (.file f)) (isLocal : f.isLocal) :
    step.2 ∉ (ofParameters parameters).fields.map (·.1) := by
  cases within with
  | @inside _ i name child _ _ placed next =>
    cases next
    intro member
    rw [fieldsWired,lastOfEachNames] at member
    obtain ⟨field,wired,same⟩ := List.mem_map.mp member
    obtain ⟨other,kept,rfl⟩ := List.mem_map.mp wired
    obtain ⟨among,notPart⟩ := List.mem_filter.mp kept
    have called : name = other.1 := same.symm
    -- the only member of this name is the file itself
    have here : (name,.file f) ∈ parameters.members := by
      rw [← parametersChildren given]
      exact List.mem_of_getElem? placed
    have there : (name,other.2) ∈ parameters.members := by
      rw [called]
      exact among
    rw [← memberOnce keyed here there] at notPart
    simp [isPart,isLocal] at notPart

theorem documentPlain {trail} {inner : Value}
    (within : (ofParameters parameters).document.Within trail inner) :
    (∀ f, inner ≠ .file f) ∧ ∀ kind fields, inner ≠ .record kind fields := by
  cases within with
  | here => exact ⟨fun _ same => (by cases same),fun _ _ same => (by cases same)⟩
  | inside placed next =>
    rw [documentChildren] at placed
    have member := lastOfEachMember (List.mem_of_getElem? placed)
    obtain ⟨child,_,same⟩ := List.mem_map.mp member
    cases same
    exact wirePlain next

theorem parametersKeepFiles (given : parameters.isParameters) (keyed : parameters.Keyed) :
    FilesKept parameters (ofParameters parameters) where
  attached := by
    obtain ⟨found,files,attached⟩ := attachmentsAlong parameters
    exact ⟨found,files,(attachmentsFound given).trans (attached [])⟩
  top := partNoField given keyed
  nested := by
    intro step next rest f within isLocal
    cases within with
    | inside placed below =>
      have found := documentFound given keyed placed below (notPart below (.inl (by simp)))
      simpa [wire,Attachment.reference,isLocal,Trail.names] using found
  remote := by
    intro trail f within remote
    refine ⟨?_,InputFile.remoteRefGiven remote⟩
    cases within with
    | here => cases given
    | inside placed below =>
      have found := documentFound given keyed placed below (notPart below (.inr remote))
      simpa [wire,Attachment.reference,remote,Trail.names] using found
  plain := documentPlain

def album : Value :=
  let cover : InputFile := ⟨none,none,some ⟨0,"NamedBytes",⟨"a.png","'a.png'",false⟩⟩⟩
  .map [(.text "thumb",.file cover),(.text "caption",.null),
    (.text "media",.list [.record .mediaPhoto [("type",.text "photo"),("media",.file cover)],
      .tuple [.file ⟨some "id",some "url",none⟩]])]

theorem albumKeyed : album.Keyed := by
  have remote : (tuple [.file ⟨some "id",some "url",none⟩]).Keyed :=
    .node .nil (List.forall_mem_singleton.mpr (.ofFile _))
  refine .node (by decide) (List.forall_mem_cons.mpr ⟨.ofFile _,List.forall_mem_singleton.mpr ?_⟩)
  refine .node .nil (List.forall_mem_cons.mpr ⟨?_,List.forall_mem_singleton.mpr remote⟩)
  exact .node (by decide)
    (List.forall_mem_cons.mpr ⟨.ofText _,List.forall_mem_singleton.mpr (.ofFile _)⟩)

theorem albumKeepsFiles :
    album.isParameters ∧ album.Keyed ∧ FilesKept album (ofParameters album) :=
  ⟨rfl,albumKeyed,parametersKeepFiles rfl albumKeyed⟩

end Prepared
end BotGateway
