import BotGateway.Http.Fields
import BotGateway.Proofs.Text.Encodable
import BotGateway.Proofs.Text.Pieces

/-! Where the characters of header fields come from. Every one of a value stands in the section, so
a value has bytes for characters and can always be encoded. -/
namespace BotGateway.Http

theorem splitLinesAmong {t line : Text} {c : CodePoint} (member : line ∈ splitLines t)
    (inside : c ∈ line) : c ∈ t := by
  induction t generalizing line with
  | nil => cases member
  | cons first rest ih =>
    unfold splitLines at member
    split at member
    · obtain rfl := List.mem_singleton.mp member
      obtain rfl := List.mem_singleton.mp inside
      exact List.mem_cons_self
    · rename_i head lines same
      have below {l : Text} (among : l ∈ head :: lines) (within : c ∈ l) : c ∈ first :: rest :=
        List.mem_cons_of_mem _ (ih (same ▸ among) within)
      split at member
      · rcases List.mem_cons.mp member with rfl | among
        · obtain rfl := List.mem_singleton.mp inside
          exact List.mem_cons_self
        · exact below among inside
      · rcases List.mem_cons.mp member with rfl | among
        · rcases List.mem_cons.mp inside with rfl | within
          · exact List.mem_cons_self
          · exact below List.mem_cons_self within
        · exact below (List.mem_cons_of_mem _ among) inside

theorem splitFirstAfter {separator : CodePoint} {t before after : Text}
    (split : Text.splitFirst separator t = some (before,after)) : after <:+ t := by
  rw [Text.splitFirstWhole split]
  exact (List.suffix_cons separator after).trans (List.suffix_append before _)

variable {p : CodePoint → Prop}

theorem fieldOfAmong {line : Text} {field : Text × Text} (found : fieldOf? line = some field)
    (all : ∀ c ∈ line, p c) : ∀ c ∈ field.2, p c := by
  unfold fieldOf? at found
  split at found
  · cases found
  · split at found
    · rename_i name value split
      split at found
      · cases found
      · cases found
        intro c member
        exact all c ((splitFirstAfter split).mem ((List.dropWhile_suffix _).mem member))
    · cases found

theorem trimEndAmong {drop : CodePoint → Bool} {t : Text} {c : CodePoint}
    (member : c ∈ Text.trimEnd drop t) : c ∈ t :=
  List.mem_reverse.mp ((List.dropWhile_suffix _).mem (List.mem_reverse.mp member))

theorem closedAmong {last : Option (Text × Text)} (held : ∀ field, last = some field → ∀ c ∈ field.2, p c)
    {field : Text × Text} (member : field ∈ (last.map closed).toList) : ∀ c ∈ field.2, p c := by
  obtain ⟨pending,same,rfl⟩ := Option.map_eq_some_iff.mp (Option.mem_toList.mp member)
  exact fun c inside => held pending same c (trimEndAmong inside)

theorem foldAmong {lines : List Text} {last : Option (Text × Text)}
    (held : ∀ field, last = some field → ∀ c ∈ field.2, p c)
    (all : ∀ line ∈ lines, ∀ c ∈ line, p c) : ∀ field ∈ fold last lines, ∀ c ∈ field.2, p c := by
  induction lines generalizing last with
  | nil => exact fun field member => closedAmong held member
  | cons line rest ih =>
    have first := all line List.mem_cons_self
    have others : ∀ l ∈ rest, ∀ c ∈ l, p c := fun l member => all l (List.mem_cons_of_mem _ member)
    intro field member
    unfold fold at member
    split at member
    · refine ih ?_ others field member
      intro longer same c inside
      obtain ⟨pending,kept,rfl⟩ := Option.map_eq_some_iff.mp same
      rcases List.mem_append.mp inside with before | added
      · exact held pending kept c before
      · exact first c added
    · rcases List.mem_append.mp member with done | later
      · exact closedAmong held done
      · exact ih (fun next found => fieldOfAmong found first) others field later

theorem latinLow {raw : Bytes} {c : CodePoint} (member : c ∈ Quoted.latin raw) : c.val < 0x100 := by
  obtain ⟨b,_,rfl⟩ := List.mem_map.mp member
  have small := b.toNat_lt
  have value : (CodePoint.ofNat b.toNat).val = b.toNat := Nat.mod_eq_of_lt (by omega)
  omega

theorem sectionLow (raw : Bytes) : ∀ field ∈ ofSection raw, ∀ c ∈ field.2, c.val < 0x100 := by
  refine foldAmong (fun field none => by cases none) fun line member c inside => ?_
  exact latinLow (splitLinesAmong ((List.takeWhile_sublist _).mem member) inside)

theorem getAmong {fields : Fields} {name value : Text} (found : fields.get? name = some value) :
    ∃ field ∈ fields, field.2 = value := by
  obtain ⟨field,first,rfl⟩ := Option.map_eq_some_iff.mp found
  exact ⟨field,List.mem_of_find?_eq_some first,rfl⟩

theorem sectionEncodable {raw : Bytes} {name value : Text}
    (found : (ofSection raw).get? name = some value) : Utf8.Encodable value := by
  obtain ⟨field,member,rfl⟩ := getAmong found
  intro c inside
  have low := sectionLow raw field member c inside
  simp only [Utf8.isSurrogate,Bool.and_eq_false_iff,decide_eq_false_iff_not]
  omega

end BotGateway.Http
