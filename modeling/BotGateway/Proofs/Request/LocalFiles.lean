import BotGateway.Proofs.Value.Places

/-! The local files of a value, from left to right and depth first. The attachments are these files,
named for the way to them. -/
namespace BotGateway.Value

structure LocalFiles (value : Value) (found : List (Trail × InputFile)) : Prop where
  ordered : found.Pairwise fun a b => a.1.places < b.1.places
  exact : ∀ {trail file}, (trail,file) ∈ found ↔ file.isLocal ∧ value.Within trail (.file file)

structure LocalFilesAmong (start : Nat) (children : List (Text × Value))
    (found : List (Trail × InputFile)) : Prop where
  ordered : found.Pairwise fun a b => a.1.places < b.1.places
  exact : ∀ {trail file}, (trail,file) ∈ found ↔ file.isLocal ∧ ∃ i name child rest,
    children[i]? = some (name,child) ∧ trail = (start + i,name) :: rest ∧
      child.Within rest (.file file)

def attach (path : List Text) (found : List (Trail × InputFile)) : List Attachment :=
  found.map fun (trail,f) => ⟨Attachment.nameOf (path ++ trail.names),f⟩

theorem attachEntries (path : List Text) (entries : List (Value × Value)) :
    attachmentsOfEntries path entries =
      (map entries).members.flatMap fun child => child.2.attachments (path ++ [child.1]) := by
  induction entries with
  | nil => rfl
  | cons entry rest ih =>
    obtain ⟨key,value⟩ := entry
    simp only [members] at ih
    cases value <;>
      simp [attachmentsOfEntries,members,isNull,ih,attachments]

theorem attachFields (path : List Text) (kind : RecordKind) (fields : List (Text × Value)) :
    attachmentsOfFields path fields =
      (record kind fields).members.flatMap fun child => child.2.attachments (path ++ [child.1]) := by
  induction fields with
  | nil => rfl
  | cons field rest ih =>
    obtain ⟨name,value⟩ := field
    simp only [members] at ih
    cases value <;>
      simp [attachmentsOfFields,members,isNull,ih,attachments]

theorem attachItems (path : List Text) (index : Nat) (items : List Value) :
    attachmentsOfItems path index items =
      (items.mapIdx fun i item => (Numeral.ofNat (index + i),item)).flatMap fun child =>
        child.2.attachments (path ++ [child.1]) := by
  induction items generalizing index with
  | nil => rfl
  | cons item rest ih =>
    simp only [attachmentsOfItems,ih,List.mapIdx_cons,List.flatMap_cons,Nat.add_zero,
      Nat.add_assoc,Nat.add_comm 1]

theorem attachmentsBelow {value : Value} (folder : ∀ file, value ≠ .file file) (path : List Text) :
    value.attachments path =
      value.children.flatMap fun child => child.2.attachments (path ++ [child.1]) := by
  cases value with
  | file f => exact absurd rfl (folder f)
  | map entries => exact attachEntries path entries
  | record kind fields => exact attachFields path kind fields
  | list items => simpa [attachments,children] using attachItems path 0 items
  | tuple items => simpa [attachments,children] using attachItems path 0 items
  | _ => rfl

theorem withinFile {f : InputFile} {trail inner} :
    (file f).Within trail inner ↔ trail = [] ∧ inner = .file f := by
  constructor
  · intro within
    cases within with
    | here => exact ⟨rfl,rfl⟩
    | inside placed next => simp [children] at placed
  · rintro ⟨rfl,rfl⟩
    exact .here _

theorem withinBelow {value : Value} {trail : Trail} {f : InputFile} (folder : value ≠ .file f) :
    value.Within trail (.file f) ↔ ∃ i name child rest, value.children[i]? = some (name,child) ∧
      trail = (i,name) :: rest ∧ child.Within rest (.file f) := by
  constructor
  · intro within
    cases within with
    | here => exact absurd rfl folder
    | inside placed next => exact ⟨_,_,_,_,placed,rfl,next⟩
  · rintro ⟨i,name,child,rest,placed,rfl,next⟩
    exact .inside placed next

theorem LocalFilesAmong.cons {start name} {child : Value} {others first rest}
    (files : child.LocalFiles first) (among : LocalFilesAmong (start + 1) others rest) :
    LocalFilesAmong start ((name,child) :: others)
      (first.map (fun (trail,f) => ((start,name) :: trail,f)) ++ rest) := by
  constructor
  · refine List.pairwise_append.mpr ⟨?_,among.ordered,?_⟩
    · refine List.pairwise_map.mpr (files.ordered.imp fun before => ?_)
      exact List.cons_lt_cons_iff.mpr (.inr ⟨rfl,before⟩)
    · rintro a left ⟨trail,file⟩ right
      obtain ⟨⟨before,other⟩,_,rfl⟩ := List.mem_map.mp left
      obtain ⟨_,i,_,_,_,_,rfl,_⟩ := among.exact.mp right
      have earlier : start < start + 1 + i := by omega
      exact List.cons_lt_cons_iff.mpr (.inl earlier)
  · intro trail file
    rw [List.mem_append]
    constructor
    · rintro (left | right)
      · obtain ⟨⟨before,other⟩,member,same⟩ := List.mem_map.mp left
        cases same
        obtain ⟨isLocal,within⟩ := files.exact.mp member
        exact ⟨isLocal,0,name,child,before,rfl,rfl,within⟩
      · obtain ⟨isLocal,i,called,inner,after,placed,rfl,within⟩ := among.exact.mp right
        refine ⟨isLocal,i + 1,called,inner,after,placed,?_,within⟩
        rw [Nat.add_assoc,Nat.add_comm 1]
    · rintro ⟨isLocal,i,called,inner,after,placed,rfl,within⟩
      cases i with
      | zero =>
        cases Option.some.inj placed
        exact .inl (List.mem_map.mpr ⟨(after,file),files.exact.mpr ⟨isLocal,within⟩,rfl⟩)
      | succ i =>
        refine .inr (among.exact.mpr ⟨isLocal,i,called,inner,after,placed,?_,within⟩)
        rw [Nat.add_assoc,Nat.add_comm 1]

theorem attachAmong {children : List (Text × Value)}
    (each : ∀ child ∈ children, ∃ found, child.2.LocalFiles found ∧
      ∀ path, child.2.attachments path = attach path found) (start : Nat) :
    ∃ found, LocalFilesAmong start children found ∧ ∀ path,
      (children.flatMap fun child => child.2.attachments (path ++ [child.1])) =
        attach path found := by
  induction children generalizing start with
  | nil => exact ⟨[],⟨.nil,by simp⟩,fun _ => rfl⟩
  | cons child others ih =>
    obtain ⟨first,files,attached⟩ := each child List.mem_cons_self
    obtain ⟨rest,among,later⟩ := ih (fun other member => each other (.tail _ member)) (start + 1)
    refine ⟨_,.cons files among,fun path => ?_⟩
    simp only [List.flatMap_cons,attached,later,attach,List.map_append,List.map_map,
      Function.comp_def,Trail.names,List.map_cons,List.append_assoc,List.singleton_append]

theorem attachFile (f : InputFile) : ∃ found, (Value.file f).LocalFiles found ∧
    ∀ path, (Value.file f).attachments path = attach path found := by
  by_cases isLocal : f.isLocal
  · refine ⟨[([],f)],⟨List.pairwise_singleton _ _,?_⟩,fun path => ?_⟩
    · intro trail other
      rw [withinFile,List.mem_singleton,Prod.mk.injEq,Value.file.injEq]
      refine ⟨fun entry => ⟨?_,entry⟩,And.right⟩
      rw [entry.2]
      exact isLocal
    · simp [attachments,Attachment.ofFile?,isLocal,attach,Trail.names]
  · refine ⟨[],⟨.nil,?_⟩,fun path => ?_⟩
    · intro trail other
      rw [withinFile,Value.file.injEq]
      refine ⟨fun none => absurd none List.not_mem_nil,fun entry => absurd ?_ isLocal⟩
      rw [← entry.2.2]
      exact entry.1
    · simp [attachments,Attachment.ofFile?,isLocal,attach]

theorem attachmentsAlong (value : Value) :
    ∃ found, value.LocalFiles found ∧ ∀ path, value.attachments path = attach path found := by
  induction value using byChildren with
  | step value ih =>
    by_cases single : ∃ f, value = .file f
    · obtain ⟨f,rfl⟩ := single
      exact attachFile f
    · have folder : ∀ f, value ≠ .file f := fun f same => single ⟨f,same⟩
      obtain ⟨found,among,attached⟩ := attachAmong ih 0
      refine ⟨found,⟨among.ordered,?_⟩,fun path => ?_⟩
      · intro trail f
        rw [withinBelow (folder f),among.exact]
        simp only [Nat.zero_add]
      · rw [attachmentsBelow folder,attached]

theorem attachmentsNone {value : Value}
    (remote : ∀ trail f, value.Within trail (.file f) → f.isLocal = false) (path : List Text) :
    value.attachments path = [] := by
  obtain ⟨found,files,attached⟩ := attachmentsAlong value
  have none : found = [] := by
    refine List.eq_nil_iff_forall_not_mem.mpr fun (trail,f) member => ?_
    obtain ⟨isLocal,within⟩ := files.exact.mp member
    rw [remote trail f within] at isLocal
    cases isLocal
  rw [attached,none]
  rfl

end BotGateway.Value
