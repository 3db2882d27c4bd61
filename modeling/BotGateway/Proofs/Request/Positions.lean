import BotGateway.Proofs.Request.Restored

/-! A value and its document, place by place. The trail to a place in the value leads to the same place
in the document, and there the document form stands of what stood in the value. -/
namespace BotGateway
open Value

namespace Json

def at? : Json → Trail → Option Json
  | json,[] => some json
  | .array items,(i,_) :: rest =>
    match items[i]? with
    | some item => item.at? rest
    | none => none
  | .object members,(i,name) :: rest =>
    match members[i]? with
    | some (called,json) => if called = name then json.at? rest else none
    | none => none
  | _,_ :: _ => none

end Json

namespace Value
variable {value inner : Value} {path : List Text} {trail : Trail} {json : Json} {i : Nat} {name : Text}

theorem itemsStep {items : List Value} {jsons : List Json}
    (written : toJsonItems false (wireItems path 0 items) = .ok jsons)
    (placed : (list items).children[i]? = some (name,inner)) :
    ∃ part, (inner.wire (path ++ [name])).toJson false = .ok part ∧
      ∀ rest, (Json.array jsons).at? ((i,name) :: rest) = part.at? rest := by
  have forms := itemsForm written
  simp only [Nat.zero_add] at forms
  obtain ⟨part,stands,form⟩ := relatedAt forms placed
  exact ⟨part,form,fun rest => by simp only [Json.at?,stands]⟩

theorem membersStep {members : List (Text × Json)} (apart : (value.members.map (·.1)).Nodup)
    (written : value.writtenMembers path = .ok members)
    (placed : value.members[i]? = some (name,inner)) :
    ∃ part, (inner.wire (path ++ [name])).toJson false = .ok part ∧
      ∀ rest, (Json.object members).at? ((i,name) :: rest) = part.at? rest := by
  obtain ⟨_,forms⟩ := membersForm apart written
  obtain ⟨⟨called,part⟩,stands,same,form⟩ := relatedAt forms placed
  cases same
  exact ⟨part,form,fun rest => by simp only [Json.at?,stands,if_true]⟩

theorem writtenStep (keyed : value.Keyed) (placed : value.children[i]? = some (name,inner))
    (written : (value.wire path).toJson false = .ok json) :
    ∃ part, (inner.wire (path ++ [name])).toJson false = .ok part ∧
      ∀ rest, json.at? ((i,name) :: rest) = part.at? rest := by
  have apart : (value.members.map (·.1)).Nodup := by
    cases keyed with
    | node names below => exact names
  cases value with
  | list items | tuple items =>
    obtain ⟨jsons,forms,same⟩ := exceptOk.mp written
    cases same
    exact itemsStep forms placed
  | map entries =>
    obtain ⟨members,forms,rfl⟩ := (parametersWritten rfl).mp written
    exact membersStep apart forms placed
  | record kind fields =>
    obtain ⟨members,forms,rfl⟩ := (parametersWritten rfl).mp written
    exact membersStep apart forms placed
  | _ => simp [children,members] at placed

theorem writtenAt (keyed : value.Keyed) (within : value.Within trail inner)
    (written : (value.wire path).toJson false = .ok json) :
    ∃ part, json.at? trail = some part ∧
      (inner.wire (path ++ trail.names)).toJson false = .ok part := by
  induction within generalizing path json with
  | here =>
    refine ⟨json,by cases json <;> rfl,?_⟩
    simpa [Trail.names] using written
  | @inside value i name child rest inner placed next ih =>
    obtain ⟨first,form,step⟩ := writtenStep keyed placed written
    obtain ⟨part,found,below⟩ := ih (keyed.child (List.mem_of_getElem? placed)) form
    refine ⟨part,(step rest).trans found,?_⟩
    simpa [Trail.names] using below

end Value
end BotGateway
