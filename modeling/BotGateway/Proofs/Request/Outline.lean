import BotGateway.Proofs.Request.ReadBack

/-! The document that parameters without local files are sent as, read again. Members without a value
are gone at every depth, items are all there, and whatever is left is as it was and where it was. -/
namespace BotGateway
open Value

namespace Value

mutual

def outline : Value → Json
  | .bool b => .bool b
  | .int n => .int n
  | .text t => .text t
  | .list items => .array (outlineItems items)
  | .tuple items => .array (outlineItems items)
  | .map entries => .object (outlineEntries entries)
  | .record _ fields => .object (outlineFields fields)
  | .file f => .text f.remoteRef
  | _ => .null

def outlineItems : List Value → List Json
  | [] => []
  | item :: rest => outline item :: outlineItems rest

def outlineEntries : List (Value × Value) → List (Text × Json)
  | [] => []
  | (key,value) :: rest =>
    if value.isNull then outlineEntries rest else (key.display,outline value) :: outlineEntries rest

def outlineFields : List (Text × Value) → List (Text × Json)
  | [] => []
  | (name,value) :: rest =>
    if value.isNull then outlineFields rest else (name,outline value) :: outlineFields rest

end

inductive Composed : Value → Prop where
  | null : Composed .null
  | bool (b : Bool) : Composed (.bool b)
  | int (n : Int) : Composed (.int n)
  | text (t : Text) : Composed (.text t)
  | list {items : List Value} (all : ∀ item ∈ items, Composed item) : Composed (.list items)
  | tuple {items : List Value} (all : ∀ item ∈ items, Composed item) : Composed (.tuple items)
  | map {entries : List (Value × Value)} (keys : (entries.map (·.1.display)).Nodup)
      (all : ∀ entry ∈ entries, Composed entry.2) : Composed (.map entries)
  | record {kind : RecordKind} {fields : List (Text × Value)} (names : (fields.map (·.1)).Nodup)
      (all : ∀ field ∈ fields, Composed field.2) : Composed (.record kind fields)
  | file {f : InputFile} (remote : f.isLocal = false) : Composed (.file f)

def outlineChild (child : Text × Value) : Text × Json := (child.1,child.2.outline)

variable {value : Value} {path : List Text} {json : Json}

theorem outlineItemsMapped (items : List Value) : outlineItems items = items.map outline := by
  induction items with
  | nil => rfl
  | cons item rest ih => rw [outlineItems,ih,List.map_cons]

theorem outlineEntriesMembers (entries : List (Value × Value)) :
    outlineEntries entries = (map entries).members.map outlineChild := by
  induction entries with
  | nil => rfl
  | cons entry rest ih =>
    simp only [members] at ih
    cases none : entry.2.isNull <;> simp [outlineEntries,members,outlineChild,none,ih]

theorem outlineFieldsMembers (kind : RecordKind) (fields : List (Text × Value)) :
    outlineFields fields = (record kind fields).members.map outlineChild := by
  induction fields with
  | nil => rfl
  | cons field rest ih =>
    simp only [members] at ih
    cases none : field.2.isNull <;> simp [outlineFields,members,outlineChild,none,ih]

theorem relatedImages {α β : Type} {f : α → β} {as : List α} {bs : List β}
    (related : List.Forall₂ (fun a b => b = f a) as bs) : bs = as.map f := by
  induction related with
  | nil => rfl
  | cons same _ ih => rw [same,ih,List.map_cons]

namespace Composed

theorem membersApart (composed : value.Composed) : (value.members.map (·.1)).Nodup := by
  cases composed with
  | map keys all =>
    rw [members,List.map_map]
    exact keys.sublist (List.filter_sublist.map _)
  | record names all => exact names.sublist (List.filter_sublist.map _)
  | @file f remote =>
    have keyed := Keyed.ofFile f
    cases keyed with
    | node names below => exact names
  | _ => exact List.nodup_nil

theorem child (composed : value.Composed) {child : Text × Value} (member : child ∈ value.children) :
    child.2.Composed := by
  cases composed with
  | list all | tuple all => exact all _ (itemOfChild member)
  | map keys all =>
    obtain ⟨entry,kept,rfl⟩ := List.mem_map.mp member
    exact all entry (List.mem_filter.mp kept).1
  | record names all => exact all child (List.mem_filter.mp member).1
  | _ => simp [children,members] at member

theorem remote (composed : value.Composed) {trail : Trail} {f : InputFile}
    (within : value.Within trail (.file f)) : f.isLocal = false := by
  generalize reached : Value.file f = inner at within
  induction within with
  | here =>
    cases reached
    cases composed with
    | file remote => exact remote
  | inside placed _ ih => exact ih (composed.child (List.mem_of_getElem? placed)) reached

theorem itemsOutlined {items : List Value} {jsons : List Json}
    (each : ∀ item ∈ items, ∀ path json, (item.wire path).toJson false = .ok json →
      json = item.outline ∧ json.Lasting)
    (written : toJsonItems false (wireItems path 0 items) = .ok jsons) :
    Json.array jsons = .array (outlineItems items) ∧ (Json.array jsons).Lasting := by
  have forms : List.Forall₂ (fun item json => json = item.outline ∧ json.Lasting) items jsons := by
    obtain ⟨length,forms⟩ := List.forall₂_iff_get.mp (itemsForm written)
    refine List.forall₂_iff_get.mpr ⟨by simpa using length,fun i inItems inJsons => ?_⟩
    have form := forms i (by simpa using inItems) inJsons
    simp only [List.get_eq_getElem,List.getElem_mapIdx] at form
    exact each _ (List.getElem_mem inItems) _ _ form
  have same : jsons = items.map outline := relatedImages (forms.imp fun _ _ form => form.1)
  refine ⟨by rw [same,outlineItemsMapped],.array fun json member => ?_⟩
  obtain ⟨item,_,_,lasting⟩ := (relatedMembers forms).2 json member
  exact lasting

theorem membersOutlined {members : List (Text × Json)} (apart : (value.members.map (·.1)).Nodup)
    (each : ∀ child ∈ value.members, ∀ path json, (child.2.wire path).toJson false = .ok json →
      json = child.2.outline ∧ json.Lasting)
    (written : value.writtenMembers path = .ok members) :
    members = value.members.map outlineChild ∧ (Json.object members).Lasting := by
  obtain ⟨names,forms⟩ := membersForm apart written
  have related : List.Forall₂ (fun child member => member = outlineChild child ∧ member.2.Lasting)
      value.members members := by
    refine List.Forall₂.imp ?_ ((List.forall₂_and_left _ _).mpr ⟨fun child member => member,forms⟩)
    rintro child ⟨name,json⟩ ⟨among,named,form⟩
    obtain ⟨same,lasting⟩ := each child among _ _ form
    exact ⟨Prod.ext named same,lasting⟩
  have same : members = value.members.map outlineChild :=
    relatedImages (related.imp fun _ _ both => both.1)
  refine ⟨same,.object (names ▸ apart) fun member among => ?_⟩
  obtain ⟨_,_,_,lasting⟩ := (relatedMembers related).2 member among
  exact lasting

theorem outlined (composed : value.Composed) (written : (value.wire path).toJson false = .ok json) :
    json = value.outline ∧ json.Lasting := by
  induction composed generalizing path json with
  | null =>
    cases written
    exact ⟨rfl,.null⟩
  | bool b =>
    cases written
    exact ⟨rfl,.bool b⟩
  | text t =>
    cases written
    exact ⟨rfl,.text t⟩
  | int n =>
    obtain ⟨rfl,short⟩ := integerWritten written
    exact ⟨rfl,.int short⟩
  | file remote =>
    rw [wire,Attachment.reference,remote] at written
    cases written
    exact ⟨rfl,.text _⟩
  | list all ih | tuple all ih =>
    obtain ⟨jsons,forms,same⟩ := exceptOk.mp written
    cases same
    exact itemsOutlined (fun item member path json => ih item member) forms
  | @map entries keys all ih =>
    obtain ⟨members,forms,rfl⟩ := (parametersWritten rfl).mp written
    obtain ⟨rfl,lasting⟩ := membersOutlined (Composed.map keys all).membersApart
      (fun child member path json => by
        obtain ⟨entry,kept,rfl⟩ := List.mem_map.mp member
        exact ih entry (List.mem_filter.mp kept).1) forms
    exact ⟨by rw [outline,outlineEntriesMembers],lasting⟩
  | @record kind fields names all ih =>
    obtain ⟨members,forms,rfl⟩ := (parametersWritten rfl).mp written
    have composed : (Value.record kind fields).Composed := .record names all
    obtain ⟨rfl,lasting⟩ := membersOutlined composed.membersApart
      (fun child member path json => ih child (List.mem_filter.mp member).1) forms
    exact ⟨by rw [outline,outlineFieldsMembers kind],lasting⟩

end Composed

end Value

namespace Payload
open Json Prepared

variable {boundary : Text} {parameters : Value} {scene : Scene Shelf} {payload : Payload}

theorem outlineRead (given : parameters.isParameters) (composed : parameters.Composed)
    (sent : encoded boundary parameters scene = .ok payload) :
    payload.contentType = documentType ∧
      Json.ofTolerantBytes? payload.body = some parameters.outline := by
  have remote : ∀ trail f, parameters.Within trail (.file f) → f.isLocal = false :=
    fun _ _ within => composed.remote within
  obtain ⟨_,asDocument,members,written,sendable,body⟩ := (aloneSome (withoutFiles given remote)).mp sent
  rw [wiredWithoutFiles given remote] at written
  have whole : (parameters.wire []).toJson false = .ok (.object members) :=
    (parametersWritten given).mpr ⟨members,written,rfl⟩
  obtain ⟨same,lasting⟩ := composed.outlined whole
  refine ⟨asDocument,?_⟩
  rw [body,objectTolerated lasting ((writeObjectEncodable members).mpr sendable),same]

def survey : Value :=
  .map [(.text "chat_id",.int (-42)),(.int 7,.tuple [.null,.bool true,.text "\"\n\x7f"]),
    (.text "caption",.null),(.text "media",.list [.record .mediaPhoto [("type",.text "photo"),
      ("media",.file ⟨some [],some "u",none⟩),("caption",.null)],.map [(.null,.null)]])]

theorem surveyComposed : survey.Composed := by
  have photo : (Value.record .mediaPhoto [("type",.text "photo"),
      ("media",.file ⟨some [],some "u",none⟩),("caption",.null)]).Composed := by
    refine .record (by decide) ?_
    simp only [List.forall_mem_cons,List.not_mem_nil,false_imp_iff,implies_true,and_true]
    exact ⟨.text _,.file rfl,.null⟩
  have empty : (Value.map [(.null,.null)]).Composed :=
    .map (by decide) (List.forall_mem_singleton.mpr .null)
  have media := Composed.list (List.forall_mem_cons.mpr ⟨photo,List.forall_mem_singleton.mpr empty⟩)
  refine .map (by decide) ?_
  simp only [List.forall_mem_cons,List.not_mem_nil,false_imp_iff,implies_true,and_true]
  refine ⟨.int _,.tuple ?_,.null,media⟩
  simp only [List.forall_mem_cons,List.not_mem_nil,false_imp_iff,implies_true,and_true]
  exact ⟨.null,.bool _,.text _⟩

theorem surveyRead : ∃ payload, encoded "B" survey ⟨.empty,[]⟩ = .ok payload ∧
    Json.ofTolerantBytes? payload.body = some (.object [("chat_id",.int (-42)),
      ("7",.array [.null,.bool true,.text "\"\n\x7f"]),
      ("media",.array [.object [("type",.text "photo"),("media",.text "u")],.object []])]) := by
  obtain ⟨payload,sent⟩ : ∃ payload, encoded "B" survey ⟨.empty,[]⟩ = .ok payload := ⟨_,rfl⟩
  exact ⟨payload,sent,(outlineRead rfl surveyComposed sent).2⟩

end Payload
end BotGateway
