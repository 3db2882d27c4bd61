import BotGateway.Proofs.Number.Numeral
import BotGateway.Request.Attachment

/-! Places within a value. A request goes into records, maps, lists and tuples; the parts of each are
its children, in order, and a trail leads from child to child. -/
namespace BotGateway

abbrev Trail := List (Nat × Text)

namespace Trail

def places (trail : Trail) : List Nat := trail.map (·.1)

def names (trail : Trail) : List Text := trail.map (·.2)

end Trail

namespace Value

def children : Value → List (Text × Value)
  | .list items | .tuple items => items.mapIdx fun i item => (Numeral.ofNat i,item)
  | .file _ => []
  | value => value.members

inductive Within : Value → Trail → Value → Prop where
  | here (value) : Within value [] value
  | inside {value i name child rest inner} (placed : value.children[i]? = some (name,child))
      (next : Within child rest inner) : Within value ((i,name) :: rest) inner

def find? : Value → List Text → Option Value
  | value,[] => some value
  | value,name :: rest =>
    match value.children.lookup name with
    | none => none
    | some child => child.find? rest

inductive Keyed : Value → Prop where
  | node {value} (names : (value.members.map (·.1)).Nodup)
      (below : ∀ child ∈ value.children, Keyed child.2) : Keyed value

theorem memberSmaller {entries : List (Value × Value)} {entry} (member : entry ∈ entries) :
    sizeOf entry.2 < sizeOf entries := by
  have inside := List.sizeOf_lt_of_mem member
  have part : sizeOf entry.2 < sizeOf entry := by
    obtain ⟨key,value⟩ := entry
    simp only [Prod.mk.sizeOf_spec]
    omega
  omega

theorem fieldSmaller {fields : List (Text × Value)} {field} (member : field ∈ fields) :
    sizeOf field.2 < sizeOf fields := by
  have inside := List.sizeOf_lt_of_mem member
  have part : sizeOf field.2 < sizeOf field := by
    obtain ⟨name,value⟩ := field
    simp only [Prod.mk.sizeOf_spec]
    omega
  omega

theorem itemOfChild {items : List Value} {child : Text × Value}
    (member : child ∈ items.mapIdx fun i item => (Numeral.ofNat i,item)) : child.2 ∈ items := by
  obtain ⟨i,bound,rfl⟩ := List.mem_mapIdx.mp member
  exact List.getElem_mem bound

theorem childSmaller {value : Value} {child} (member : child ∈ value.children) :
    sizeOf child.2 < sizeOf value := by
  cases value with
  | list items =>
    have := List.sizeOf_lt_of_mem (itemOfChild member)
    simp only [Value.list.sizeOf_spec]
    omega
  | tuple items =>
    have := List.sizeOf_lt_of_mem (itemOfChild member)
    simp only [Value.tuple.sizeOf_spec]
    omega
  | map entries =>
    obtain ⟨entry,kept,rfl⟩ := List.mem_map.mp member
    have := memberSmaller (List.mem_filter.mp kept).1
    simp only [Value.map.sizeOf_spec]
    omega
  | record kind fields =>
    have := fieldSmaller (List.mem_filter.mp member).1
    simp only [Value.record.sizeOf_spec]
    omega
  | _ => simp [children,members] at member

theorem byChildren {P : Value → Prop}
    (step : ∀ value, (∀ child ∈ value.children, P child.2) → P value) (value : Value) : P value :=
  step value fun child _member => byChildren step child.2
termination_by sizeOf value
decreasing_by exact childSmaller _member

theorem itemNamesNodup (items : List Value) :
    ((items.mapIdx fun i item => (Numeral.ofNat i,item)).map (·.1)).Nodup := by
  refine List.pairwise_iff_getElem.mpr fun i j hi hj before same => ?_
  simp only [List.getElem_map,List.getElem_mapIdx] at same
  exact Nat.ne_of_lt before (Numeral.ofNatInjective same)

theorem Keyed.childrenNodup {value : Value} (keyed : value.Keyed) :
    (value.children.map (·.1)).Nodup := by
  cases keyed with
  | node names below =>
    cases value with
    | list items => exact itemNamesNodup items
    | tuple items => exact itemNamesNodup items
    | file => exact List.nodup_nil
    | _ => exact names

theorem Keyed.child {value : Value} (keyed : value.Keyed) {child} (member : child ∈ value.children) :
    child.2.Keyed := by
  cases keyed with
  | node names below => exact below child member

theorem Keyed.ofText (t : Text) : (text t).Keyed := .node .nil (by simp [children,members])

theorem Keyed.ofFile (f : InputFile) : (file f).Keyed := by
  have names : ((fileFields f).map (·.1)).Nodup := by
    simp only [fileFields,List.map_cons,List.map_nil]
    decide
  exact .node (names.sublist (List.filter_sublist.map _)) (by simp [children])

theorem lookupAt {α : Type} {fields : List (Text × α)} (nodup : (fields.map (·.1)).Nodup) {i : Nat}
    {name : Text} {value : α} (placed : fields[i]? = some (name,value)) : fields.lookup name = some value := by
  induction fields generalizing i with
  | nil => simp at placed
  | cons field rest ih =>
    obtain ⟨other,first⟩ := field
    simp only [List.map_cons,List.nodup_cons] at nodup
    cases i with
    | zero =>
      cases Option.some.inj placed
      simp
    | succ i =>
      have later : rest[i]? = some (name,value) := by simpa using placed
      have different : (name == other) = false := by
        refine beq_false_of_ne fun same => nodup.1 ?_
        exact List.mem_map.mpr ⟨_,List.mem_of_getElem? later,same⟩
      simpa [List.lookup_cons,different] using ih nodup.2 later

theorem zipLookup {α : Type} {names : List Text} {values : List α} (nodup : names.Nodup)
    (length : names.length = values.length) {i : Nat} {name : Text} {value : α}
    (named : names[i]? = some name) (placed : values[i]? = some value) :
    (names.zip values).lookup name = some value := by
  have apart : ((names.zip values).map (·.1)).Nodup := by
    rw [List.map_fst_zip (Nat.le_of_eq length)]
    exact nodup
  exact lookupAt apart (List.getElem?_zip_eq_some.mpr ⟨named,placed⟩)

theorem Keyed.sameTrail {value inner other : Value} {trail way : Trail} (keyed : value.Keyed)
    (left : value.Within trail inner) (right : value.Within way other)
    (same : trail.names = way.names) : trail = way := by
  induction left generalizing way with
  | here =>
    cases way with
    | nil => rfl
    | cons step rest => simp [Trail.names] at same
  | @inside value i name child rest inner placed next ih =>
    cases right with
    | here => simp [Trail.names] at same
    | @inside _ j called found later _ there further =>
      simp only [Trail.names,List.map_cons,List.cons.injEq] at same
      obtain ⟨rfl,names⟩ := same
      have nodup := keyed.childrenNodup
      have one : i = j := by
        have left : i < (value.children.map (·.1)).length := by
          simpa using (List.getElem?_eq_some_iff.mp placed).1
        refine (List.getElem?_inj left nodup).mp ?_
        simp [placed,there]
      subst one
      cases placed.symm.trans there
      rw [ih (keyed.child (List.mem_of_getElem? placed)) further names]

def Fileless (value : Value) : Prop := ∀ trail f, ¬value.Within trail (.file f)

theorem Fileless.child {value : Value} (fileless : value.Fileless) {child : Text × Value}
    (member : child ∈ value.children) : child.2.Fileless := by
  intro trail f within
  obtain ⟨i,placed⟩ := List.mem_iff_getElem?.mp member
  exact fileless _ f (.inside placed within)

theorem Fileless.item {items : List Value} (fileless : (list items).Fileless) {item : Value}
    (member : item ∈ items) : item.Fileless := by
  obtain ⟨i,bound,rfl⟩ := List.getElem_of_mem member
  have child : (Numeral.ofNat i,items[i]) ∈ (list items).children :=
    List.mem_mapIdx.mpr ⟨i,bound,rfl⟩
  exact fileless.child child

theorem Fileless.below {value : Value} (folder : ∀ f, value ≠ .file f)
    (below : ∀ child ∈ value.children, child.2.Fileless) : value.Fileless := by
  intro trail f within
  cases within with
  | here => exact folder f rfl
  | inside placed next => exact below _ (List.mem_of_getElem? placed) _ f next

end Value
end BotGateway
