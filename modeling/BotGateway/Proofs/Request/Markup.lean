import BotGateway.Proofs.Request.ReadBack
import BotGateway.Proofs.Schema.Fullest

/-! Markups of replies. Nothing in the document of a markup says of which kind it is, and what is written
of one kind can be read as another. Its own kind is always given more fields than any other. -/
namespace BotGateway
open Value

namespace Json

theorem arrayLevels {items : List Json} {n : Nat} (each : ∀ item ∈ items, levels item ≤ n) :
    levels (.array items) ≤ n + 1 := by
  have most : itemLevels items ≤ n := by
    induction items with
    | nil => exact Nat.zero_le n
    | cons item rest ih =>
      obtain ⟨first,others⟩ := List.forall_mem_cons.mp each
      exact Nat.max_le.mpr ⟨first,ih others⟩
  cases items with
  | nil => exact Nat.zero_le _
  | cons => exact Nat.succ_le_succ most

theorem objectLevels {members : List (Text × Json)} {n : Nat}
    (each : ∀ member ∈ members, levels member.2 ≤ n) : levels (.object members) ≤ n + 1 := by
  have most : memberLevels members ≤ n := by
    induction members with
    | nil => exact Nat.zero_le n
    | cons member rest ih =>
      obtain ⟨first,others⟩ := List.forall_mem_cons.mp each
      exact Nat.max_le.mpr ⟨first,ih others⟩
  cases members with
  | nil => exact Nat.zero_le _
  | cons => exact Nat.succ_le_succ most

end Json

inductive Shape.Shallow : Nat → Shape → Prop where
  | boolean {n : Nat} : Shallow n .boolean
  | text {n : Nat} : Shallow n .text
  | always {n : Nat} : Shallow n .always
  | optional {n : Nat} {shape : Shape} (shallow : Shallow n shape) : Shallow n (.optional shape)
  | listOf {n : Nat} {shape : Shape} (shallow : Shallow n shape) : Shallow (n + 1) (.listOf shape)
  | record {n : Nat} {kind : RecordKind} (shallow : ∀ field ∈ kind.fields, Shallow n field.shape) :
      Shallow (n + 1) (.record kind)

namespace Shape.Shallow
variable {n : Nat} {shape : Shape} {kind : RecordKind}

theorem unmet (shallow : Shallow n shape) (value : Value) (meeting : Meeting) :
    ¬value.Meets shape meeting := by
  induction shallow generalizing value meeting with
  | boolean | text | always => rintro ⟨⟩
  | optional _ ih =>
    rintro (_ | ⟨_,meets⟩)
    exact ih _ _ meets
  | listOf _ ih =>
    rintro (_ | _ | ⟨_,meets⟩)
    exact ih _ _ meets
  | record _ ih =>
    rintro (_ | _ | _ | ⟨listed,_,meets⟩)
    exact ih _ listed _ _ meets

theorem never (shallow : Shallow n (.record kind)) (value : Value) :
    (value.check (.record kind)).failure? = none := by
  have none : value.meetings (.record kind) = [] :=
    List.eq_nil_iff_forall_not_mem.mpr fun meeting member =>
      shallow.unmet value meeting ((value.meetingsMeet _ meeting).mp member)
  exact (value.ordered (.record kind) rfl).trans (by rw [none]; rfl)

theorem levels (shallow : Shallow n shape) {value : Value} {path : List Text} {json : Json}
    (fits : Fits shape value) (regular : shape.isRegular = true)
    (written : (value.wire path).toJson false = .ok json) : json.levels ≤ n := by
  induction shallow generalizing value path json with
  | boolean | text | always =>
    cases fits
    cases written
    exact Nat.zero_le _
  | optional _ ih =>
    cases fits with
    | absent =>
      cases written
      exact Nat.zero_le _
    | present _ fits => exact ih fits (Shape.solidRegular regular) written
  | listOf _ ih =>
    cases fits with
    | listOf all =>
      obtain ⟨jsons,forms,same⟩ := exceptOk.mp written
      cases same
      refine Json.arrayLevels fun json member => ?_
      obtain ⟨child,among,form⟩ := (relatedMembers (itemsForm forms)).2 json member
      obtain ⟨i,bound,rfl⟩ := List.mem_mapIdx.mp among
      exact ih (all _ (List.getElem_mem bound)) (Shape.solidRegular regular) form
  | @record n kind _ ih =>
    cases fits with
    | @record _ pairs fields all =>
      have wire : kind.isWire = true := regular
      have regularFields := List.all_eq_true.mp (RecordKind.wireRegular wire)
      obtain ⟨members,listed,rfl⟩ := recordWritten.mp written
      obtain ⟨_,_,forms⟩ := recordForms ((Fits.record fields all).namesApart wire) listed
      refine Json.objectLevels fun member stands => ?_
      obtain ⟨child,among,_,form⟩ := (relatedMembers forms).2 member stands
      obtain ⟨pair,paired,rfl⟩ := List.mem_map.mp (List.mem_filter.mp among).1
      have among : pair.1 ∈ kind.fields := fields ▸ List.mem_map_of_mem paired
      exact ih pair.1 among (all pair paired) (Field.shapeRegular (regularFields pair.1 among)) form

end Shape.Shallow

namespace RecordKind

def markups : List RecordKind :=
  [.inlineKeyboardMarkup,.replyKeyboardMarkup,.replyKeyboardRemove,.forceReply]

def names (kind : RecordKind) : List Text := kind.fields.map (·.name)

/-- What keeps a record of one kind from being taken for another kind. That one asks for a field which
the own does not have, or it has nothing but light fields, and shares none that the own kind needs. -/
def parts (own other : RecordKind) : Bool :=
  (other.fields.any fun field => field.default.isNone && !own.names.contains field.name) ||
    (other.fields.all (·.shape.isLight) &&
      (other.names.filter (own.names.contains ·)).isSublist own.names.tail)

theorem markupOf {kind : RecordKind} (markup : kind.markupName?.isSome = true) : kind ∈ markups := by
  cases kind <;> first | decide | cases markup

theorem markupsPart : ∀ own ∈ markups, ∀ other ∈ markups, own ≠ other → own.parts other = true := by
  decide +kernel

theorem markupsWire : ∀ kind ∈ markups, kind.isWire = true ∧ kind.isFileless = true := by decide

theorem markupsNamed : ∀ kind ∈ markups, ∀ name ∈ kind.names, attributeName name = name := by
  decide +kernel

theorem markupsFirst : ∀ kind ∈ markups,
    ∃ field rest, kind.fields = field :: rest ∧ field.shape.isSolid = true := by
  simp only [markups,List.forall_mem_cons,List.not_mem_nil,false_imp_iff,implies_true,and_true]
  exact ⟨⟨_,_,rfl,rfl⟩,⟨_,_,rfl,rfl⟩,⟨_,_,rfl,rfl⟩,⟨_,_,rfl,rfl⟩⟩

section Shallow
open Shape (Shallow)

theorem webAppShallow {n : Nat} : Shallow (n + 1) (.record .webAppInfo) :=
  .record (List.forall_mem_singleton.mpr .text)

theorem inlineButtonShallow {n : Nat} : Shallow (n + 2) (.record .inlineKeyboardButton) := by
  refine .record ?_
  simp only [fields,List.forall_mem_cons,List.not_mem_nil,false_imp_iff,implies_true,and_true]
  exact ⟨.text,.optional .text,.optional .text,.optional webAppShallow,.optional .text⟩

theorem buttonShallow {n : Nat} : Shallow (n + 2) (.record .keyboardButton) := by
  refine .record ?_
  simp only [fields,List.forall_mem_cons,List.not_mem_nil,false_imp_iff,implies_true,and_true]
  exact ⟨.text,.optional .boolean,.optional .boolean,.optional webAppShallow⟩

theorem markupsShallow : ∀ kind ∈ markups, Shallow 5 (.record kind) := by
  simp only [markups,List.forall_mem_cons,List.not_mem_nil,false_imp_iff,implies_true,and_true]
  refine ⟨.record ?_,.record ?_,.record ?_,.record ?_⟩
  all_goals
    simp only [fields,List.forall_mem_cons,List.not_mem_nil,false_imp_iff,implies_true,and_true]
  · exact .listOf (.listOf inlineButtonShallow)
  · exact ⟨.listOf (.listOf buttonShallow),.optional .boolean,.optional .boolean,.optional .boolean,
      .optional .text,.optional .boolean⟩
  · exact ⟨.always,.optional .boolean⟩
  · exact ⟨.always,.optional .text,.optional .boolean⟩

end Shallow

end RecordKind

section Given
variable {members : List (Text × Json)}

theorem Field.foundNone {field : Field} (plain : attributeName field.name = field.name)
    (absent : field.name ∉ members.map (·.1)) : field.find? (memberChecks members) = none := by
  rw [find?,plain,memberAbsent absent]
  simp only [memberAbsent absent,Option.map_none]

theorem Field.givenNamed {field : Field} (plain : attributeName field.name = field.name) :
    (field.check (memberChecks members)).2 = (members.map (·.1)).contains field.name := by
  by_cases among : field.name ∈ members.map (·.1)
  · rw [List.contains_iff_mem.mpr among,check,find?,memberCheck]
    cases found : members.lookup field.name with
    | some json => rfl
    | none =>
      obtain ⟨member,stands,same⟩ := List.mem_map.mp among
      have other := List.lookup_eq_none_iff.mp found member stands
      simp [same] at other
  · rw [Bool.eq_false_iff.mpr fun present => among (List.contains_iff_mem.mp present),check,foundNone plain among]
    cases field.default <;> rfl

namespace RecordKind
variable {own other kind : RecordKind}

theorem givenNamed (plain : ∀ name ∈ kind.names, attributeName name = name) :
    kind.givenCount (memberChecks members) = kind.names.countP (members.map (·.1)).contains := by
  rw [givenCount,names,List.countP_map]
  refine List.countP_congr fun field among => ?_
  rw [Field.givenNamed (plain field.name (List.mem_map_of_mem among)),Function.comp_apply]

theorem sharedFewer {given : List Text} (within : ∀ name ∈ given, name ∈ own.names) {first : Text}
    {rest : List Text} (names : own.names = first :: rest) (present : first ∈ given)
    (shared : (other.names.filter (own.names.contains ·)).Sublist own.names.tail) :
    other.names.countP given.contains < own.names.countP given.contains := by
  have known : other.names.countP given.contains =
      (other.names.filter (own.names.contains ·)).countP given.contains := by
    rw [List.countP_filter]
    refine List.countP_congr fun name _ => ?_
    simpa using within name
  calc other.names.countP given.contains
      = (other.names.filter (own.names.contains ·)).countP given.contains := known
    _ ≤ own.names.tail.countP given.contains := shared.countP_le
    _ < own.names.countP given.contains := by
      rw [names,List.tail_cons,List.countP_cons_of_pos (by simpa using present)]
      exact Nat.lt_succ_self _

theorem missingRejects {field : Field} (among : field ∈ kind.fields) (asked : field.default = none)
    (plain : attributeName field.name = field.name) (absent : field.name ∉ members.map (·.1))
    {value : Value} : ¬(kind.build (memberChecks members)).Takes value := by
  intro takes
  have each : ∀ field ∈ kind.fields, (field.check (memberChecks members)).1.Explained := by
    intro field listed
    refine Field.checkExplained fun entry member => ?_
    obtain ⟨original,_,same⟩ := entriesChecked member
    rw [same]
    exact explained original.2 field.shape (kind.unionsPlain field listed)
  obtain ⟨values,_,taken⟩ := built each takes
  obtain ⟨own,_,ownTakes⟩ := (relatedMembers taken).1 field among
  rw [Field.check,Field.foundNone plain absent] at ownTakes
  simp only [asked] at ownTakes
  obtain ⟨_,⟨⟩,_⟩ := ownTakes

structure Names (kind : RecordKind) (given : List Text) : Prop where
  within : ∀ name ∈ given, name ∈ kind.names
  first : ∃ name rest, kind.names = name :: rest ∧ name ∈ given

theorem otherBelow (markup : own ∈ markups) (among : other ∈ markups) (differ : own ≠ other)
    (names : own.Names (members.map (·.1))) {most : Nat}
    (least : own.givenCount (memberChecks members) ≤ most) :
    (other.build (memberChecks members)).Below most := by
  have plain := markupsNamed other among
  have never : (other.build (memberChecks members)).failure? = none :=
    (markupsShallow other among).never (ofJson (.object members))
  cases built : other.build (memberChecks members) with
  | rejected => trivial
  | aborted =>
    rw [built] at never
    cases never
  | accepted result =>
    have parted := markupsPart own markup other among differ
    simp only [parts,Bool.or_eq_true,Bool.and_eq_true,List.any_eq_true,List.all_eq_true] at parted
    obtain ⟨field,listed,asked,foreign⟩ | ⟨light,shared⟩ := parted
    · have absent : field.name ∉ members.map (·.1) := by
        intro present
        simp [names.within _ present] at foreign
      exact absurd ⟨result,built,rfl⟩ (missingRejects listed (Option.isNone_iff_eq_none.mp asked)
        (plain _ (List.mem_map_of_mem listed)) absent)
    · obtain ⟨first,rest,same,present⟩ := names.first
      have fewer := sharedFewer names.within same present (List.isSublist_iff_sublist.mp shared)
      rw [← givenNamed plain,← givenNamed (markupsNamed own markup)] at fewer
      exact ⟨_,givenLight light built,Nat.lt_of_lt_of_le fewer least⟩

theorem ownChosen (markup : kind ∈ markups) (names : kind.Names (members.map (·.1))) {value : Value}
    (taken : (kind.build (memberChecks members)).Takes value) :
    ((ofJson (.object members)).check Shape.replyMarkup).Takes value := by
  obtain ⟨result,built,rfl⟩ := taken
  obtain ⟨most,given,least⟩ := givenLeast built
  obtain ⟨before,after,split⟩ := List.append_of_mem markup
  have apart : markups.Nodup := by decide
  rw [split,List.nodup_middle,List.nodup_cons] at apart
  have below : ∀ other ∈ before ++ after, (other.build (memberChecks members)).Below most := by
    intro other among
    have listed : other ∈ markups := by
      rw [split]
      rcases List.mem_append.mp among with earlier | later
      · exact List.mem_append_left _ earlier
      · exact List.mem_append_right _ (.tail _ later)
    exact otherBelow markup listed (fun same => apart.1 (same ▸ among)) names least
  have chosen : (ofJson (.object members)).check Shape.replyMarkup = Verdict.choose none []
      (markups.map fun kind => ((Shape.record kind).title,kind.build (memberChecks members))) := rfl
  rw [chosen,split,List.map_append,List.map_cons,built]
  refine ⟨result,Verdict.chosenMost given ?_ ?_ _ (by rintro _ ⟨⟩) [],rfl⟩
  · exact List.forall_mem_map.mpr fun other among => below other (List.mem_append_left _ among)
  · exact List.forall_mem_map.mpr fun other among => below other (List.mem_append_right _ among)

end RecordKind

end Given

namespace RecordKind
variable {kind : RecordKind} {fields : List (Text × Value)} {path : List Text} {json : Json}

theorem writtenNames (markup : kind ∈ markups) (fits : Fits (.record kind) (.record kind fields))
    {members : List (Text × Json)} (written : (Value.record kind fields).writtenMembers path = .ok members) :
    kind.Names (members.map (·.1)) := by
  have wire := (markupsWire kind markup).1
  obtain ⟨same,_,_⟩ := recordForms (fits.namesApart wire) written
  rw [same]
  cases fits with
  | @record _ pairs fields all =>
    refine ⟨fun name among => ?_,?_⟩
    · obtain ⟨pair,paired,_,rfl⟩ := pairMembers.mp among
      exact List.mem_map_of_mem (fields ▸ List.mem_map_of_mem paired)
    · obtain ⟨field,rest,listed,solid⟩ := markupsFirst kind markup
      rw [names,listed]
      refine ⟨field.name,_,rfl,?_⟩
      rw [listed] at fields
      obtain ⟨pair,others,rfl,rfl,_⟩ := List.map_eq_cons_iff.mp fields
      exact pairMembers.mpr ⟨pair,List.mem_cons_self,(all pair List.mem_cons_self).solidNotNull solid,rfl⟩

theorem markupRestored (markup : kind ∈ markups) (fits : Fits (.record kind) (.record kind fields))
    (written : ((Value.record kind fields).wire path).toJson false = .ok json) :
    json.Restores Shape.replyMarkup (.record kind fields) ∧ json.levels ≤ 5 := by
  obtain ⟨wire,plain⟩ := markupsWire kind markup
  have restored := fits.restored wire (fits.fileless plain) written
  have shallow := (markupsShallow kind markup).levels fits wire written
  obtain ⟨members,listed,rfl⟩ := recordWritten.mp written
  exact ⟨⟨restored.lasting,ownChosen markup (writtenNames markup fits listed) restored.taken⟩,shallow⟩

end RecordKind

namespace Envelope
open Json

def carrying (body : Bytes) : Bytes := ascii "\x7b\"ok\":true,\"result\":" ++ (body ++ ascii "\x7d")

def carried (json : Json) : Json := .object [("ok",.bool true),("result",json)]

theorem carriedWritten (json : Json) : (carried json).write compact =
    "\x7b\"ok\":true,\"result\":" ++ (json.write compact ++ "\x7d") := rfl

theorem carryingWritten (json : Json) :
    carrying (Utf8.bytesOf (json.write compact)) = Utf8.bytesOf ((carried json).write compact) := by
  have bytes (s t : Text) : Utf8.bytesOf (s ++ t) = Utf8.bytesOf s ++ Utf8.bytesOf t := List.flatMap_append
  rw [carriedWritten,bytes,bytes]
  rfl

theorem carriedDecoded (members : List (Text × Json)) :
    (Shape.record .envelope).validate (.ofJson (carried (.object members))) =
      .ok (.record .envelope [("ok",.bool true),("result",.ofJson (.object members)),
        ("error_code",.null),("description",.null),("parameters",.null)]) := by
  rfl

theorem carryingDecoded {members : List (Text × Json)} (lasting : (Json.object members).Lasting)
    (shallow : (Json.object members).levels ≤ 5)
    (encodable : Utf8.Encodable ((Json.object members).write compact)) :
    ∃ envelope, decode (carrying (Utf8.bytesOf ((Json.object members).write compact))) = .ok envelope ∧
      envelope.result = .ofJson (.object members) := by
  have whole : (carried (.object members)).Lasting := by
    have apart : [("ok" : Text),"result"].Nodup := by decide
    exact .object apart (by simpa using ⟨.bool true,lasting⟩)
  have clear : Utf8.Encodable ((carried (.object members)).write compact) := by
    simpa [carriedWritten] using encodable
  have low : ∀ depth ∈ strict.depth, (carried (.object members)).levels ≤ depth := by
    rintro _ ⟨⟩
    have most : (carried (.object members)).levels ≤ 5 + 1 :=
      objectLevels (by simpa using ⟨Nat.zero_le 5,shallow⟩)
    omega
  have read : ofStrictBytes? (Utf8.bytesOf ((carried (.object members)).write compact)) =
      some (carried (.object members)) := objectStrict whole clear low
  rw [decode,readRecord,carryingWritten,read]
  simp only [carriedDecoded]
  exact ⟨_,rfl,rfl⟩

end Envelope

namespace Payload
variable {kind : RecordKind} {fields : List (Text × Value)}

structure MarkupBack (markup : Value) : Prop where
  within : ∀ path json, (markup.wire path).toJson false = .ok json →
    Shape.replyMarkup.validate (.ofJson json) = .ok markup
  body : ∀ boundary scene payload, encoded boundary markup scene = .ok payload →
    ∃ json, Json.ofStrictBytes? payload.body = some json ∧
      Shape.replyMarkup.validate (.ofJson json) = .ok markup
  answer : ∀ boundary scene payload, encoded boundary markup scene = .ok payload →
    ∃ envelope, Envelope.decode (Envelope.carrying payload.body) = .ok envelope ∧
      envelope.decodeResult (.shaped Shape.replyMarkup) = .ok markup

theorem markupReadBack (markup : kind.markupName?.isSome = true) (built : Built (.record kind fields)) :
    MarkupBack (.record kind fields) := by
  have among := RecordKind.markupOf markup
  obtain ⟨wire,plain⟩ := RecordKind.markupsWire kind among
  have fits := built.fits wire
  have fileless := fits.fileless plain
  have taken {path : List Text} {json : Json}
      (written : ((Value.record kind fields).wire path).toJson false = .ok json) :
      Shape.replyMarkup.validate (.ofJson json) = .ok (.record kind fields) := by
    obtain ⟨result,accepted,same⟩ := (RecordKind.markupRestored among fits written).1.taken
    rw [Shape.validate,accepted,← same]
  refine ⟨fun path json => taken,fun boundary scene payload sent => ?_,fun boundary scene payload sent => ?_⟩
  all_goals
    obtain ⟨members,sent⟩ := recordSent wire built fileless sent
    have written := recordWritten.mpr ⟨members,sent.written,rfl⟩
    have shallow := (RecordKind.markupRestored among fits written).2
    rw [sent.body]
  · refine ⟨.object members,Json.objectStrict sent.restores.lasting sent.encodable ?_,taken written⟩
    rintro _ ⟨⟩
    omega
  · obtain ⟨envelope,decoded,result⟩ :=
      Envelope.carryingDecoded sent.restores.lasting shallow sent.encodable
    refine ⟨envelope,decoded,?_⟩
    rw [Envelope.decodeResult,result,taken written]

def promptFields : List (Text × Value) := [("force_reply",.bool true),
  ("input_field_placeholder",.text "Name?"),("selective",.bool false)]

theorem promptBuilt : Built (.record .forceReply promptFields) := by
  have given : Built (.map [(.text "input_field_placeholder",.text "Name?"),
      (.text "selective",.int 0)]) := by
    refine .map ?_
    simp only [List.forall_mem_cons,List.not_mem_nil,false_imp_iff,implies_true,and_true]
    exact ⟨.text _,.int _⟩
  exact .record given rfl

theorem promptReadBack : ∃ payload,
    encoded "B" (.record .forceReply promptFields) ⟨.empty,[]⟩ = .ok payload ∧
    ∃ envelope, Envelope.decode (Envelope.carrying payload.body) = .ok envelope ∧
      envelope.decodeResult (.shaped Shape.replyMarkup) = .ok (.record .forceReply promptFields) := by
  obtain ⟨payload,sent⟩ : ∃ payload,
      encoded "B" (.record .forceReply promptFields) ⟨.empty,[]⟩ = .ok payload := ⟨_,rfl⟩
  exact ⟨payload,sent,(markupReadBack rfl promptBuilt).answer "B" ⟨.empty,[]⟩ payload sent⟩

end Payload
end BotGateway
