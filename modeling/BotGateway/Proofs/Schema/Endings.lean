import BotGateway.Proofs.Except
import BotGateway.Schema.Conform

/-! How a check can end before all of its findings are collected. Only a set of variants ends one,
and only for a value that is no object, a tag it does not know, or a variant that does not fit. -/
namespace BotGateway

inductive VariantSet.Ends (tags : Value → Prop) : Failure → Prop where
  | notObject (set : VariantSet) (typeName : Text) : Ends tags (.notObject set.name typeName)
  | unknown (set : VariantSet) {tag : Value} (among : tags tag)
      (short : set.unknown tag ≠ .unwritable .longInteger) : Ends tags (set.unknown tag)
  | badVariant (set : VariantSet) (kind : Text) (report : Report) :
      Ends tags (.badVariant set.name kind report)

structure Value.Inherited (tags : Value → Prop) : Prop where
  null : tags .null
  list : ∀ {items}, tags (.list items) → ∀ item ∈ items, tags item
  tuple : ∀ {items}, tags (.tuple items) → ∀ item ∈ items, tags item
  set : ∀ {items}, tags (.set items) → ∀ item ∈ items, tags item
  map : ∀ {entries}, tags (.map entries) → ∀ entry ∈ entries, tags entry.2

theorem Value.inheritedTrivial : Inherited fun _ => True :=
  ⟨trivial,fun _ _ _ => trivial,fun _ _ _ => trivial,fun _ _ _ => trivial,fun _ _ _ => trivial⟩

variable {tags : Value → Prop}

theorem VariantSet.endsOrdinary {failure} (ends : VariantSet.Ends tags failure) :
    failure.kind.isOrdinary = true := by
  cases ends with
  | notObject => rfl
  | badVariant => rfl
  | @unknown set tag =>
    unfold VariantSet.unknown
    split
    · rfl
    · rename_i cause _
      cases cause <;> rfl

namespace Verdict

def Settles (tags : Value → Prop) : Verdict → Prop
  | .aborted failure => VariantSet.Ends tags failure
  | _ => True

def EndsIn (ends : Failure → Prop) : Verdict → Prop
  | .aborted failure => ends failure
  | _ => True

section Ending
variable {ends : Failure → Prop}

theorem scalarEnds {α : Type} (wrap : α → Value) (found : Except Issue.Cause (α × Bool)) :
    (scalar wrap found).EndsIn ends := by
  cases found <;> trivial

theorem underEnds {verdict} (step : Step) (settles : EndsIn ends verdict) :
    (verdict.under step).EndsIn ends := by
  cases verdict with
  | accepted => trivial
  | rejected => trivial
  | aborted failure => exact settles

theorem gatherEnds {verdicts failure} (settle : ∀ verdict ∈ verdicts, EndsIn ends verdict)
    (ended : gather verdicts = .error failure) : ends failure := by
  induction verdicts generalizing failure with
  | nil => cases ended
  | cons verdict rest ih =>
    have tail {cause} (h : gather rest = .error cause) : ends cause :=
      ih (fun v member => settle v (List.mem_cons_of_mem _ member)) h
    cases verdict with
    | aborted cause =>
      cases ended
      exact settle _ List.mem_cons_self
    | rejected issues | accepted result =>
      rcases exceptError.mp ended with failed | ⟨_,_,⟨⟩⟩
      exact tail failed

theorem gatheredEnds {verdicts} (wrap : List Value → Value)
    (settle : ∀ verdict ∈ verdicts, EndsIn ends verdict) :
    (ofGathered wrap (gather verdicts)).EndsIn ends := by
  cases found : gather verdicts with
  | error failure => exact gatherEnds settle found
  | ok gathered =>
    simp only [ofGathered]
    split <;> trivial

theorem chooseEnds {members} (best : Option Accepted) (issues : List Issue)
    (settle : ∀ member ∈ members, EndsIn ends member.2) :
    (choose best issues members).EndsIn ends := by
  induction members generalizing best issues with
  | nil => cases best <;> trivial
  | cons member rest ih =>
    obtain ⟨label,verdict⟩ := member
    have tail (best issues) : (choose best issues rest).EndsIn ends :=
      ih best issues fun m mem => settle m (List.mem_cons_of_mem _ mem)
    cases verdict with
    | aborted failure => exact settle _ List.mem_cons_self
    | rejected found => exact tail _ _
    | accepted result =>
      simp only [choose]
      split
      · trivial
      · cases best <;> exact tail _ _

end Ending

end Verdict

def Checker.Settles (tags : Value → Prop) (check : Checker) : Prop :=
  ∀ shape, (check shape).Settles tags

structure Parts.Settle (tags : Value → Prop) (parts : Parts) : Prop where
  items : ∀ check ∈ parts.items, Checker.Settles tags check
  entries : ∀ entry ∈ parts.entries, Checker.Settles tags entry.2

section Entries
variable {entries : List (Value × Checker)}

theorem Value.entryAmong {α : Type} {entries : List (Value × α)} {key check}
    (found : Value.entry? key entries = some check) : ∃ entry ∈ entries, entry.2 = check := by
  obtain ⟨entry,he,same⟩ := Option.map_eq_some_iff.mp found
  exact ⟨entry,List.mem_of_find?_eq_some he,same⟩

theorem Field.foundAmong {field : Field} {key check}
    (found : field.find? entries = some (key,check)) : ∃ entry ∈ entries, entry.2 = check := by
  unfold Field.find? at found
  split at found
  · rename_i own he
    cases found
    exact Value.entryAmong he
  · obtain ⟨other,he,same⟩ := Option.map_eq_some_iff.mp found
    cases same
    exact Value.entryAmong he

section Fields
variable {ends : Failure → Prop}

theorem Field.checkEnds {field : Field}
    (settle : ∀ entry ∈ entries, (entry.2 field.shape).EndsIn ends) :
    (field.check entries).1.EndsIn ends := by
  unfold Field.check
  split
  · rename_i key check found
    obtain ⟨entry,member,rfl⟩ := Field.foundAmong found
    exact Verdict.underEnds _ (settle entry member)
  · split <;> trivial

theorem Field.checksEnd {fields : List Field}
    (settle : ∀ field ∈ fields, ∀ entry ∈ entries, (entry.2 field.shape).EndsIn ends) :
    ∀ verdict ∈ (fields.map (·.check entries)).map (·.1), verdict.EndsIn ends := by
  intro verdict member
  simp only [List.map_map,List.mem_map,Function.comp_apply] at member
  obtain ⟨field,among,rfl⟩ := member
  exact Field.checkEnds (settle field among)

theorem RecordKind.buildEnds {kind : RecordKind}
    (settle : ∀ field ∈ kind.fields, ∀ entry ∈ entries, (entry.2 field.shape).EndsIn ends) :
    (kind.build entries).EndsIn ends := by
  unfold RecordKind.build
  dsimp only
  split
  · rename_i failure ended
    exact Verdict.gatherEnds (Field.checksEnd settle) ended
  · split <;> trivial

theorem InputFile.contentEnds {verdict : Verdict} (settles : verdict.EndsIn ends) :
    (InputFile.checkContent verdict).EndsIn ends := by
  cases verdict with
  | accepted result =>
    simp only [InputFile.checkContent]
    split <;> trivial
  | rejected => trivial
  | aborted => exact settles

theorem InputFile.buildEnds
    (settle : ∀ field ∈ InputFile.fields, ∀ entry ∈ entries, (entry.2 field.shape).EndsIn ends) :
    (InputFile.build entries).EndsIn ends := by
  have fields := Field.checksEnd settle
  unfold InputFile.build
  dsimp only
  split
  · rename_i failure ended
    refine Verdict.gatherEnds ?_ ended
    intro verdict member
    obtain ⟨i,hi⟩ := List.getElem?_of_mem member
    rw [List.getElem?_modify] at hi
    obtain ⟨source,hs,same⟩ := Option.map_eq_some_iff.mp hi
    have settled := fields source (List.mem_of_getElem? hs)
    subst same
    split
    · exact InputFile.contentEnds settled
    · exact settled
  · split
    · trivial
    · split <;> trivial

end Fields

theorem RecordKind.buildSettles (kind : RecordKind)
    (settle : ∀ entry ∈ entries, Checker.Settles tags entry.2) :
    (kind.build entries).Settles tags :=
  RecordKind.buildEnds fun field _ entry member => settle entry member field.shape

theorem InputFile.buildSettles (settle : ∀ entry ∈ entries, Checker.Settles tags entry.2) :
    (InputFile.build entries).Settles tags :=
  InputFile.buildEnds fun field _ entry member => settle entry member field.shape

theorem VariantSet.peeked {set : VariantSet} {value tag : Value} (found : set.peek value = .ok tag) :
    ∃ entries, value = .map entries ∧ tag = (Value.entry? set.field entries).getD .null := by
  unfold VariantSet.peek at found
  split at found
  · cases found
    exact ⟨_,rfl,rfl⟩
  · cases found

theorem VariantSet.resolved {set : VariantSet} {tag : Value} {kind : RecordKind}
    (found : set.resolve tag = .ok kind) : ∃ t, tag = .text t ∧ set.variants.lookup t = some kind := by
  unfold VariantSet.resolve VariantSet.kindOf? at found
  cases tag with
  | text t =>
    dsimp only at found
    split at found
    · rename_i listed
      cases found
      exact ⟨t,rfl,listed⟩
    · cases found
  | _ => cases found

theorem VariantSet.peekedTag {set : VariantSet} {value tag} (inherited : Value.Inherited tags)
    (holds : tags value) (found : set.peek value = .ok tag) : tags tag := by
  obtain ⟨entries,rfl,rfl⟩ := VariantSet.peeked found
  cases given : Value.entry? set.field entries with
  | none => exact inherited.null
  | some tag =>
    obtain ⟨entry,member,rfl⟩ := Value.entryAmong given
    exact inherited.map holds entry member

theorem VariantSet.buildFails {set : VariantSet} {value failure}
    (inherited : Value.Inherited tags) (holds : tags value)
    (settle : ∀ entry ∈ entries, Checker.Settles tags entry.2)
    (ended : set.build value entries = .error failure) :
    (∃ tag, tags tag ∧ failure = set.unknown tag) ∨ VariantSet.Ends tags failure := by
  unfold VariantSet.build at ended
  rcases exceptError.mp ended with failed | ⟨tag,peeked,ended⟩
  · unfold VariantSet.peek at failed
    split at failed
    · cases failed
    · cases failed
      exact .inr (.notObject set _)
  rcases exceptError.mp ended with failed | ⟨kind,_,ended⟩
  · unfold VariantSet.resolve at failed
    split at failed
    · cases failed
    · cases failed
      exact .inl ⟨tag,VariantSet.peekedTag inherited holds peeked,rfl⟩
  · have settles := kind.buildSettles settle
    split at ended
    · cases ended
    · cases ended
      exact .inr (.badVariant set _ _)
    · rename_i cause built
      cases ended
      rw [built] at settles
      exact .inr settles

theorem VariantSet.buildEnds {set : VariantSet} {value failure}
    (inherited : Value.Inherited tags) (holds : tags value)
    (settle : ∀ entry ∈ entries, Checker.Settles tags entry.2)
    (ended : set.build value entries = .error failure)
    (short : failure ≠ .unwritable .longInteger) : VariantSet.Ends tags failure := by
  obtain ⟨tag,among,rfl⟩ | ends := VariantSet.buildFails inherited holds settle ended
  · exact .unknown set among short
  · exact ends

end Entries

namespace Value

mutual

theorem conformSettles {value : Value} (inherited : Inherited tags) (holds : tags value)
    {parts : Parts} (settle : parts.Settle tags) (shape : Shape) :
    (conform value parts shape).Settles tags := by
  cases shape with
  | boolean | integer | text => exact Verdict.scalarEnds _ _
  | anything => trivial
  | constant | always => unfold conform; split <;> trivial
  | optional shape =>
    unfold conform
    split
    · trivial
    · exact conformSettles inherited holds settle shape
  | listOf shape =>
    have items : ∀ verdict ∈ parts.items.mapIdx fun i check => (check shape).under (.index i),
        verdict.Settles tags := by
      intro verdict member
      obtain ⟨i,hi,rfl⟩ := List.mem_mapIdx.mp member
      exact Verdict.underEnds _ (settle.items _ (List.getElem_mem hi) shape)
    unfold conform
    split <;> first | exact Verdict.gatheredEnds _ items | trivial
  | record kind =>
    unfold conform
    split
    · exact kind.buildSettles settle.entries
    · split <;> trivial
    · trivial
  | file =>
    unfold conform
    split
    · exact InputFile.buildSettles settle.entries
    · trivial
    · trivial
  | oneOf members =>
    unfold conform
    exact Verdict.chooseEnds none [] (conformAllSettle inherited holds settle members)
  | tagged set =>
    unfold conform
    split
    · trivial
    · split
      · trivial
      · trivial
      · rename_i short ended
        exact VariantSet.buildEnds inherited holds settle.entries ended short

theorem conformAllSettle {value : Value} (inherited : Inherited tags) (holds : tags value)
    {parts : Parts} (settle : parts.Settle tags) (shapes : List Shape) :
    ∀ member ∈ conformAll value parts shapes, member.2.Settles tags := by
  cases shapes with
  | nil => simp [conformAll]
  | cons shape rest =>
    intro member mem
    rcases List.mem_cons.mp (by simpa only [conformAll] using mem) with rfl | later
    · exact conformSettles inherited holds settle shape
    · exact conformAllSettle inherited holds settle rest member later

end

mutual

theorem checkSettles (inherited : Inherited tags) (value : Value) (holds : tags value) :
    Checker.Settles tags value.check := by
  intro shape
  cases value with
  | list items =>
    simp only [check]
    exact conformSettles inherited holds
      ⟨checkItemsSettle inherited items (inherited.list holds),by simp⟩ shape
  | tuple items =>
    simp only [check]
    exact conformSettles inherited holds
      ⟨checkItemsSettle inherited items (inherited.tuple holds),by simp⟩ shape
  | set items =>
    simp only [check]
    exact conformSettles inherited holds
      ⟨checkItemsSettle inherited items (inherited.set holds),by simp⟩ shape
  | map entries =>
    simp only [check]
    exact conformSettles inherited holds
      ⟨by simp,checkEntriesSettle inherited entries (inherited.map holds)⟩ shape
  | _ =>
    simp only [check]
    exact conformSettles inherited holds ⟨by simp,by simp⟩ shape

theorem checkItemsSettle (inherited : Inherited tags) (items : List Value)
    (hold : ∀ item ∈ items, tags item) :
    ∀ check ∈ checkItems items, Checker.Settles tags check := by
  cases items with
  | nil => simp [checkItems]
  | cons item rest =>
    intro check member
    rcases List.mem_cons.mp (by simpa only [checkItems] using member) with rfl | later
    · exact checkSettles inherited item (hold item List.mem_cons_self)
    · exact checkItemsSettle inherited rest (fun i m => hold i (.tail _ m)) check later

theorem checkEntriesSettle (inherited : Inherited tags) (entries : List (Value × Value))
    (hold : ∀ entry ∈ entries, tags entry.2) :
    ∀ entry ∈ checkEntries entries, Checker.Settles tags entry.2 := by
  match entries with
  | [] => simp [checkEntries]
  | (key,value) :: rest =>
    intro entry member
    rcases List.mem_cons.mp (by simpa only [checkEntries] using member) with rfl | later
    · exact checkSettles inherited value (hold _ List.mem_cons_self)
    · exact checkEntriesSettle inherited rest (fun e m => hold e (.tail _ m)) entry later

end

end Value

theorem Shape.validateFails {shape : Shape} {value failure} (inherited : Value.Inherited tags)
    (holds : tags value) (failed : shape.validate value = .error failure) :
    (∃ report, failure = .invalid report) ∨ VariantSet.Ends tags failure := by
  have settles := value.checkSettles inherited holds shape
  unfold Shape.validate at failed
  split at failed
  · cases failed
  · cases failed
    exact .inl ⟨_,rfl⟩
  · rename_i cause ended
    cases failed
    rw [ended] at settles
    exact .inr settles

end BotGateway
