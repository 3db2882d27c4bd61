import BotGateway.Envelope
import BotGateway.Proofs.Json.Short
import BotGateway.Proofs.Json.Written
import BotGateway.Proofs.Request.AddedFile
import BotGateway.Proofs.Schema.Fits
import BotGateway.Proofs.Text.Utf8
import Mathlib.Data.List.Nodup

/-! A record without files, sent and read back. Names pair off what was written with the fields it
came from, nulls come back as the defaults of the fields that were left out, and a union or a set of
variants takes what is written of a member for that member again. -/
namespace BotGateway
open Value

structure Json.Restores (json : Json) (shape : Shape) (value : Value) : Prop where
  lasting : json.Lasting
  taken : ((Value.ofJson json).check shape).Takes value

theorem Value.nullOnly {value : Value} (null : value.isNull = true) : value = .null := by
  cases value <;> first | rfl | cases null

section Documents
variable {members : List (Text × Json)}

theorem Value.entryLookup {α β : Type} (turn : β → α) (key : Text) (fields : List (Text × β)) :
    entry? key (fields.map fun field => (.text field.1,turn field.2)) =
      (fields.lookup key).map turn := by
  induction fields with
  | nil => rfl
  | cons field rest ih =>
    obtain ⟨name,value⟩ := field
    rw [List.map_cons]
    by_cases same : name = key
    · simp [ entry?,isKey,same]
    · have other : (key == name) = false := beq_false_of_ne (Ne.symm same)
      have later : entry? key ((text name,turn value) :: rest.map fun field =>
          (text field.1,turn field.2)) = entry? key (rest.map fun field => (.text field.1,turn field.2)) := by
        simp [ entry?,isKey,same]
      rw [later,ih,List.lookup_cons,other]

def Value.memberChecks (members : List (Text × Json)) : List (Value × Checker) :=
  checkEntries (ofJsonMembers members)

theorem Value.memberCheck (key : Text) :
    entry? key (memberChecks members) = (members.lookup key).map fun json => (ofJson json).check := by
  have mapped : memberChecks members =
      members.map fun member => (.text member.1,(ofJson member.2).check) := by
    rw [memberChecks]
    induction members with
    | nil => rfl
    | cons member rest ih => rw [ofJsonMembers,checkEntries,ih,List.map_cons]
  rw [mapped]
  exact entryLookup (fun json => (ofJson json).check) key members

theorem Value.memberPresent {key : Text} {json : Json} (apart : (members.map (·.1)).Nodup)
    (member : (key,json) ∈ members) : entry? key (memberChecks members) = some (ofJson json).check := by
  obtain ⟨i,placed⟩ := List.mem_iff_getElem?.mp member
  rw [memberCheck,lookupAt apart placed,Option.map_some]

theorem Value.memberAbsent {key : Text} (absent : key ∉ members.map (·.1)) :
    entry? key (memberChecks members) = none := by
  have none : members.lookup key = none := by
    refine List.lookup_eq_none_iff.mpr fun member stands => ?_
    rw [bne_iff_ne]
    rintro rfl
    exact absent (List.mem_map_of_mem stands)
  rw [memberCheck,none,Option.map_none]

end Documents

namespace Field
variable {field : Field} {members : List (Text × Json)} {value : Value}

theorem givenTakes {json : Json} (apart : (members.map (·.1)).Nodup)
    (member : (field.name,json) ∈ members) (taken : ((ofJson json).check field.shape).Takes value) :
    (field.check (memberChecks members)).1.Takes value := by
  have found : field.find? (memberChecks members) = some (field.name,(ofJson json).check) := by
    rw [find?,memberPresent apart member]
  rw [check,found]
  exact Verdict.underTakes _ taken

theorem absentTakes (own : field.name ∉ members.map (·.1))
    (other : attributeName "from" ∉ members.map (·.1)) (default : field.default = some value) :
    (field.check (memberChecks members)).1.Takes value := by
  have second : attributeName field.name ∉ members.map (·.1) := by
    unfold attributeName
    split
    · exact other
    · exact own
  have missing : field.find? (memberChecks members) = none := by
    rw [find?,memberAbsent own]
    simp only [memberAbsent second,Option.map_none]
  rw [check,missing]
  simp only [default]
  exact ⟨_,rfl,rfl⟩

theorem nullDefault (regular : field.isRegular = true) (fits : Fits field.shape .null) :
    field.default = some .null := by
  unfold isRegular at regular
  split at regular
  · assumption
  · rename_i shape _
    rw [shape] at fits
    cases fits
  · rename_i shape _
    rw [shape] at fits
    cases fits
  · cases fits.solidNotNull regular
  · cases regular

theorem restored (regular : field.isRegular = true) (fits : Fits field.shape value)
    (distinct : (members.map (·.1)).Nodup) (foreign : attributeName "from" ∉ members.map (·.1))
    (present : value.isNull = false → ∃ json, (field.name,json) ∈ members ∧
      ((ofJson json).check field.shape).Takes value)
    (absent : value.isNull = true → field.name ∉ members.map (·.1)) :
    (field.check (memberChecks members)).1.Takes value := by
  cases null : value.isNull with
  | false =>
    obtain ⟨json,stands,taken⟩ := present null
    exact givenTakes distinct stands taken
  | true =>
    cases nullOnly null
    exact absentTakes (absent null) foreign (nullDefault regular fits)

end Field

section Records
variable {kind : RecordKind} {path : List Text} {members : List (Text × Json)}

def Value.writtenMembers (path : List Text) (value : Value) : Except Unwritable (List (Text × Json)) :=
  toJsonEntries false ((lastOfEach (value.members.map (wireChild path))).map textEntry)

theorem Value.parametersWritten {value : Value} {json : Json} (given : value.isParameters = true) :
    (value.wire path).toJson false = .ok json ↔
      ∃ members, value.writtenMembers path = .ok members ∧ json = .object members := by
  have wired : (value.wire path).toJson false = (value.writtenMembers path).map .object := by
    cases value with
    | map entries =>
      rw [wire,wireEntriesMembers,ofFields]
      exact toJsonMap _
    | record kind fields =>
      rw [wire,wireFieldsMembers path kind,ofFields]
      exact toJsonMap _
    | _ => cases given
  rw [wired]
  cases value.writtenMembers path with
  | error cause => simp [Except.map]
  | ok members => simp [Except.map,eq_comm]

theorem Value.recordWritten {fields : List (Text × Value)} {json : Json} :
    ((record kind fields).wire path).toJson false = .ok json ↔
      ∃ members, (record kind fields).writtenMembers path = .ok members ∧ json = .object members :=
  parametersWritten rfl

def Value.Forms (path : List Text) (value : Value) (members : List (Text × Json)) : Prop :=
  List.Forall₂ (fun child member =>
    member.1 = child.1 ∧ (child.2.wire (path ++ [child.1])).toJson false = .ok member.2) value.members
    members

theorem Value.membersForm {value : Value} (apart : (value.members.map (·.1)).Nodup)
    (written : value.writtenMembers path = .ok members) :
    members.map (·.1) = value.members.map (·.1) ∧ value.Forms path members := by
  have names : (value.members.map (wireChild path)).map (·.1) = value.members.map (·.1) := by
    rw [List.map_map]
    rfl
  rw [writtenMembers,lastOfEachSame (names ▸ apart)] at written
  exact ⟨(toJsonNames written).trans names,List.forall₂_map_left_iff.mp (toJsonEach written)⟩

theorem Value.recordForms {fields : List (Text × Value)} (apart : (fields.map (·.1)).Nodup)
    (written : (record kind fields).writtenMembers path = .ok members) :
    members.map (·.1) = (record kind fields).members.map (·.1) ∧ (members.map (·.1)).Nodup ∧
      (record kind fields).Forms path members := by
  have kept : ((record kind fields).members.map (·.1)).Nodup :=
    apart.sublist (List.filter_sublist.map _)
  obtain ⟨same,forms⟩ := membersForm kept written
  exact ⟨same,same ▸ kept,forms⟩

section Pairs
variable {pairs : List (Field × Value)}

theorem Value.pairMembers {name : Text} :
    name ∈ (record kind (pairs.map fun pair => (pair.1.name,pair.2))).members.map (·.1) ↔
      ∃ pair ∈ pairs, pair.2.isNull = false ∧ pair.1.name = name := by
  simp [Value.members,List.filter_map,and_assoc]

theorem Value.pairMember {pair : Field × Value} (paired : pair ∈ pairs)
    (notNull : pair.2.isNull = false) : (pair.1.name,pair.2) ∈
      (record kind (pairs.map fun pair => (pair.1.name,pair.2))).members :=
  List.mem_filter.mpr ⟨List.mem_map_of_mem paired,by simp [notNull]⟩

theorem RecordKind.taken (wire : kind.isWire = true) (fields : pairs.map (·.1) = kind.fields)
    (all : ∀ pair ∈ pairs, Fits pair.1.shape pair.2)
    (each : ∀ pair ∈ pairs, pair.2.isNull = false → ∀ json,
      (pair.2.wire (path ++ [pair.1.name])).toJson false = .ok json →
      ((ofJson json).check pair.1.shape).Takes pair.2)
    (written : (Value.record kind (pairs.map fun pair => (pair.1.name,pair.2))).writtenMembers path =
      .ok members) :
    ((ofJson (.object members)).check (.record kind)).Takes
      (.record kind (pairs.map fun pair => (pair.1.name,pair.2))) := by
  have regular := List.all_eq_true.mp (RecordKind.wireRegular wire)
  have named : kind.fields.map (·.name) = pairs.map fun pair => pair.1.name := by
    rw [← fields,List.map_map]
    rfl
  obtain ⟨apart,other⟩ := RecordKind.wireNames wire
  rw [named] at apart other
  obtain ⟨names,distinct,forms⟩ := recordForms ((Fits.record fields all).namesApart wire) written
  have foreign : attributeName "from" ∉ members.map (·.1) := by
    rw [names,pairMembers]
    rintro ⟨twin,among,_,same⟩
    exact other (same ▸ List.mem_map_of_mem among)
  have taken : List.Forall₂ (fun field value => (field.check (memberChecks members)).1.Takes value)
      kind.fields (pairs.map (·.2)) := by
    rw [← fields,List.forall₂_map_left_iff,List.forall₂_map_right_iff,List.forall₂_same]
    intro pair paired
    -- a null is left out, and no other field has the name that is missing
    refine Field.restored (regular pair.1 (fields ▸ List.mem_map_of_mem paired)) (all pair paired)
      distinct foreign (fun notNull => ?_) (fun null => ?_)
    · obtain ⟨⟨name,json⟩,stands,rfl,form⟩ := (relatedMembers forms).1 _ (pairMember paired notNull)
      exact ⟨json,stands,each pair paired notNull json form⟩
    · rw [names,pairMembers]
      rintro ⟨twin,among,notNull,same⟩
      cases List.inj_on_of_nodup_map apart among paired same
      simp [null] at notNull
  have zipped : (kind.fields.map (·.name)).zip (pairs.map (·.2)) =
      pairs.map fun pair => (pair.1.name,pair.2) := by
    rw [named,List.zip_map']
  rw [← zipped]
  exact RecordKind.buildTakes taken

end Pairs

end Records

section Variants
variable {set : VariantSet} {tag : Text} {kind : RecordKind}

theorem VariantSet.Shows.peeked (shows : set.Shows tag kind) {fields : List (Text × Value)}
    (fits : Fits (.record kind) (.record kind fields)) {path : List Text}
    {members : List (Text × Json)} (forms : (record kind fields).Forms path members) :
    set.peek (ofJson (.object members)) = .ok (.text tag) := by
  obtain ⟨others,first⟩ := shows.first
  cases fits with
  | @record _ pairs fields all =>
    rw [first] at fields
    cases pairs with
    | nil => cases fields
    | cons pair rest =>
      obtain ⟨field,value⟩ := pair
      cases (List.cons.inj fields).1
      cases all _ List.mem_cons_self with
      | constant =>
        obtain ⟨⟨name,json⟩,later,⟨rfl,form⟩,_,rfl⟩ := List.forall₂_cons_left_iff.mp forms
        cases form
        simp [ofJson,ofJsonMembers,peek, entry?,isKey]

theorem VariantSet.Shows.rebuilt (shows : set.Shows tag kind) {fields : List (Text × Value)}
    (fits : Fits (.record kind) (.record kind fields)) {path : List Text}
    {members : List (Text × Json)} (written : (record kind fields).writtenMembers path = .ok members)
    (restores : (Json.object members).Restores (.record kind) (.record kind fields)) :
    set.build (ofJson (.object members)) (memberChecks members) = .ok (.record kind fields) := by
  obtain ⟨_,_,forms⟩ := recordForms (fits.namesApart shows.wire) written
  obtain ⟨result,accepted,same⟩ := restores.taken
  have built : kind.build (memberChecks members) = .accepted result := accepted
  have resolved : set.resolve (.text tag) = .ok kind := by
    rw [resolve,kindOf?,shows.found]
  rw [build,shows.peeked fits forms]
  simp only [bind,Except.bind,resolved,built,same]

theorem VariantSet.taggedTaken {entries : List (Value × Value)} {variant : Value}
    (built : set.build (.map entries) (checkEntries entries) = .ok variant) :
    ((Value.map entries).check (.tagged set)).Takes variant := by
  have checked : (Value.map entries).check (.tagged set) = .asIs variant := by
    rw [check,conform,if_neg (by simp [admits]),built]
  exact ⟨_,checked,rfl⟩

end Variants

section Shapes
variable {value : Value} {path : List Text} {json : Json}

theorem Value.checkPresent (notNull : value.isNull = false) (shape : Shape) :
    value.check (.optional shape) = value.check shape := by
  cases value with
  | null => cases notNull
  | _ => simp [check,conform,isNull]

theorem Value.writtenNotNull (notNull : value.isNull = false)
    (written : (value.wire path).toJson false = .ok json) : (ofJson json).isNull = false := by
  have wired : (value.wire path).isNull = false := wireNotNull notNull
  generalize value.wire path = document at wired written
  cases document with
  | null => cases wired
  | int n =>
    rw [toJson] at written
    split at written
    · cases written
    · cases written
      rfl
  | list items | tuple items | map entries =>
    obtain ⟨_,_,⟨⟩⟩ := exceptOk.mp written
    rfl
  | bool | float | text =>
    cases written
    rfl
  | _ => cases written

theorem Value.integerWritten {n : Int} (written : ((Value.int n).wire path).toJson false = .ok json) :
    json = .int n ∧ Numeral.isLong n = false := by
  have plain : (if Numeral.isLong n then .error .longInteger else .ok (.int n)) =
    (.ok json : Except Unwritable Json) := written
  split at plain
  · cases plain
  · rename_i short
    cases plain
    exact ⟨rfl,by simpa using short⟩

theorem Value.unionText {member : Shape} (other : member = .integer ∨ member = .file) (t : Text) :
    ((Value.text t).check (.oneOf [member,.text])).Takes (.text t) := by
  rcases other with rfl | rfl
  · have read : (Value.text t).check (.oneOf [.integer,.text]) = .choose none []
        [(Shape.integer.title,.scalar .int ((Scalar.unlessSurrogate t Scalar.readInteger).map (·,false))),
          (Shape.text.title,.asIs (.text t))] := rfl
    rw [read]
    cases Scalar.unlessSurrogate t Scalar.readInteger with
    | error cause => exact ⟨_,rfl,rfl⟩
    | ok n => exact ⟨_,rfl,rfl⟩
  · exact ⟨_,rfl,rfl⟩

theorem Value.unionTaken {members : List Shape} (solid : (Shape.oneOf members).isSolid = true)
    {member : Shape} (among : member ∈ members) (fits : Fits member value)
    (fileless : ∀ f, value ≠ .file f) (written : (value.wire path).toJson false = .ok json) :
    ((ofJson json).check (.oneOf members)).Takes value := by
  have text {t : Text} (other : Shape) (either : other = .integer ∨ other = .file)
      (written : ((Value.text t).wire path).toJson false = .ok json) :
      ((ofJson json).check (.oneOf [other,.text])).Takes (.text t) := by
    cases written
    exact unionText either t
  rcases Shape.unionMembers solid with rfl | rfl
  · simp only [List.mem_cons,List.not_mem_nil,or_false] at among
    rcases among with rfl | rfl
    · cases fits
      obtain ⟨rfl,_⟩ := integerWritten written
      exact ⟨_,rfl,rfl⟩
    · cases fits
      exact text _ (.inl rfl) written
  · simp only [List.mem_cons,List.not_mem_nil,or_false] at among
    rcases among with rfl | rfl
    · cases fits
      exact absurd rfl (fileless _)
    · cases fits
      exact text _ (.inr rfl) written

theorem Value.itemsForm {items : List Value} {index : Nat} {jsons : List Json}
    (written : toJsonItems false (wireItems path index items) = .ok jsons) :
    List.Forall₂ (fun child json => (child.2.wire (path ++ [child.1])).toJson false = .ok json)
      (items.mapIdx fun i item => (Numeral.ofNat (index + i),item)) jsons := by
  induction items generalizing index jsons with
  | nil =>
    cases written
    exact .nil
  | cons item rest ih =>
    rw [wireItems,toJsonItems] at written
    obtain ⟨first,form,written⟩ := exceptOk.mp written
    obtain ⟨others,later,same⟩ := exceptOk.mp written
    cases same
    have forms := ih later
    simp only [Nat.add_assoc,Nat.add_comm 1] at forms
    rw [List.mapIdx_cons]
    exact .cons form forms

theorem Value.itemsTaken {shape : Shape} {items : List Value} {index : Nat} {jsons : List Json}
    (each : ∀ item ∈ items, ∀ path json, (item.wire path).toJson false = .ok json →
      ((ofJson json).check shape).Takes item)
    (written : toJsonItems false (wireItems path index items) = .ok jsons) :
    List.Forall₂ (fun json item => ((ofJson json).check shape).Takes item) jsons items := by
  obtain ⟨length,forms⟩ := List.forall₂_iff_get.mp (itemsForm written)
  refine List.forall₂_iff_get.mpr ⟨by simpa using length.symm,fun i inJsons inItems => ?_⟩
  have form := forms i (by simpa using inItems) inJsons
  simp only [List.get_eq_getElem,List.getElem_mapIdx] at form
  exact each _ (List.getElem_mem inItems) _ _ form

theorem Value.listTaken {shape : Shape} {items : List Value} {jsons : List Json}
    (each : List.Forall₂ (fun json item => ((ofJson json).check shape).Takes item) jsons items) :
    ((ofJson (.array jsons)).check (.listOf shape)).Takes (.list items) := by
  have taken : List.Forall₂ (fun check value => Verdict.Takes (check shape) value)
      (checkItems (ofJsonItems jsons)) items := by
    rwa [ofJsonItemsMapped,checkItemsMapped,List.map_map,List.forall₂_map_left_iff]
  obtain ⟨found,gathered,clean,rfl⟩ := Verdict.gatherTaken (Verdict.indexedTakes taken .index)
  rw [ofJson,check]
  simp only [conform,gathered,Verdict.ofGathered,clean,List.isEmpty_nil,if_true]
  exact ⟨_,rfl,rfl⟩

theorem Fits.lasting {shape : Shape} {value : Value} {path : List Text} {json : Json}
    (fits : Fits shape value) (regular : shape.isRegular = true)
    (written : (value.wire path).toJson false = .ok json) : json.Lasting := by
  induction fits generalizing path json with
  | boolean | always =>
    cases written
    exact .bool _
  | integer n =>
    obtain ⟨rfl,short⟩ := integerWritten written
    exact .int short
  | text | constant | file =>
    cases written
    exact .text _
  | absent =>
    cases written
    exact .null
  | present notNull fits ih => exact ih (Shape.solidRegular regular) written
  | @listOf shape items all ih =>
    obtain ⟨jsons,forms,same⟩ := exceptOk.mp written
    cases same
    refine .array fun json member => ?_
    obtain ⟨child,among,form⟩ := (relatedMembers (itemsForm forms)).2 json member
    obtain ⟨i,bound,rfl⟩ := List.mem_mapIdx.mp among
    exact ih _ (List.getElem_mem bound) (Shape.solidRegular regular) form
  | @record kind pairs fields all ih =>
    have wire : kind.isWire = true := regular
    have regularFields := List.all_eq_true.mp (RecordKind.wireRegular wire)
    obtain ⟨members,listed,rfl⟩ := recordWritten.mp written
    obtain ⟨_,distinct,forms⟩ := recordForms ((Fits.record fields all).namesApart wire) listed
    refine .object distinct fun member stands => ?_
    obtain ⟨child,among,_,form⟩ := (relatedMembers forms).2 member stands
    obtain ⟨pair,paired,rfl⟩ := List.mem_map.mp (List.mem_filter.mp among).1
    have among : pair.1 ∈ kind.fields := fields ▸ List.mem_map_of_mem paired
    exact ih pair paired (Field.shapeRegular (regularFields pair.1 among)) form
  | @oneOf members member value among fits ih =>
    exact ih (Shape.plainRegular ((Shape.unionPlain regular).2 member among)) written
  | @tagged variants tag kind fields variant fits ih =>
    exact ih (VariantSet.builtinShows (List.contains_iff_mem.mp regular) variant).wire written

theorem Fits.taken {shape : Shape} (fits : Fits shape value) (regular : shape.isRegular = true)
    (fileless : value.Fileless) (written : (value.wire path).toJson false = .ok json) :
    ((ofJson json).check shape).Takes value := by
  induction fits generalizing path json with
  | boolean | text | always | absent =>
    cases written
    exact ⟨_,rfl,rfl⟩
  | integer n =>
    obtain ⟨rfl,short⟩ := Value.integerWritten written
    exact ⟨_,rfl,rfl⟩
  | constant t =>
    cases written
    have same : (Value.text t).check (.constant t) = .asIs (.text t) :=
      if_pos (by simp [isKey])
    exact ⟨_,same,rfl⟩
  | present notNull fits ih =>
    rw [checkPresent (writtenNotNull notNull written)]
    exact ih (Shape.solidRegular regular) fileless written
  | @listOf shape items all ih =>
    rw [wire,toJson] at written
    obtain ⟨jsons,forms,same⟩ := exceptOk.mp written
    cases same
    exact listTaken (itemsTaken (fun item member path json =>
      ih item member (Shape.solidRegular regular) (fileless.item member)) forms)
  | @record kind pairs fields all ih =>
    obtain ⟨members,forms,rfl⟩ := recordWritten.mp written
    refine RecordKind.taken regular fields all (fun pair member notNull json form => ?_) forms
    have regularField := List.all_eq_true.mp (RecordKind.wireRegular regular) pair.1
      (fields ▸ List.mem_map_of_mem member)
    have child : (pair.1.name,pair.2) ∈ (Value.record kind
        (pairs.map fun pair => (pair.1.name,pair.2))).members := pairMember member notNull
    exact ih pair member (Field.shapeRegular regularField) (fileless.child child) form
  | file f => exact absurd (.here _) (fileless [] f)
  | @oneOf members member value among fits ih =>
    -- that one member takes the document is not enough: an earlier one may take it for something else
    exact unionTaken regular among fits (fun f same => fileless [] f (same ▸ .here _)) written
  | @tagged set tag kind fields variant fits ih =>
    have shows := VariantSet.builtinShows (List.contains_iff_mem.mp regular) variant
    have taken := ih shows.wire fileless written
    have lasting := fits.lasting shows.wire written
    obtain ⟨members,forms,rfl⟩ := recordWritten.mp written
    exact VariantSet.taggedTaken (shows.rebuilt fits forms ⟨lasting,taken⟩)

theorem Fits.restored {shape : Shape} (fits : Fits shape value) (regular : shape.isRegular = true)
    (fileless : value.Fileless)
    (written : (value.wire path).toJson false = .ok json) : json.Restores shape value :=
  ⟨fits.lasting regular written,fits.taken regular fileless written⟩

end Shapes
end BotGateway
