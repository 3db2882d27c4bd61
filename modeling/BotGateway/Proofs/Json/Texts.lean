import BotGateway.Proofs.Number.Layout
import BotGateway.Proofs.Text.Pieces

/-! What a written document shows of a word. A word that no mark of the notation belongs to stands in
the written form only where it stands in the written form of one of the document's texts; and there
it stands in the text itself, or else an escape runs on into it. -/
namespace BotGateway.Json

mutual

def texts : Json → List Text
  | .text t => [t]
  | .array items => itemTexts items
  | .object members => memberTexts members
  | _ => []

def itemTexts : List Json → List Text
  | [] => []
  | item :: rest => texts item ++ itemTexts rest

def memberTexts : List (Text × Json) → List Text
  | [] => []
  | (key,value) :: rest => key :: (texts value ++ memberTexts rest)

end

def escape (t : Text) : Text := t.flatMap escapeOne

def Shows (word : Text) (texts : List Text) : Prop := ∃ t ∈ texts, word <:+: escape t

theorem showsNil {word : Text} : ¬ Shows word [] := by
  rintro ⟨t,member,_⟩
  cases member

@[simp] theorem showsCons {word t : Text} {texts : List Text} :
    Shows word (t :: texts) ↔ word <:+: escape t ∨ Shows word texts := by
  simp [Shows]

@[simp] theorem showsAppend {word : Text} {first second : List Text} :
    Shows word (first ++ second) ↔ Shows word first ∨ Shows word second := by
  simp [Shows,or_and_right,exists_or]

def marks : Text := "\"\\,[]\x7b\x7d "

structure Word (word : Text) : Prop where
  colon : colon ∈ word
  longer : 1 < word.length
  unmarked : ∀ c ∈ marks, c ∉ word

namespace Word
variable {word before after inner : Text} {c d : CodePoint}

theorem filled (whole : Word word) : word ≠ [] := List.ne_nil_of_mem whole.colon

theorem apart (whole : Word word) {t : Text} (free : BotGateway.colon ∉ t) : ¬ word <:+: t :=
  fun within => free (within.subset whole.colon)

theorem alone (whole : Word word) (c : CodePoint) : ¬ word <:+: [c] := by
  intro within
  have short := within.length_le
  have longer := whole.longer
  rw [List.length_singleton] at short
  omega

theorem across (whole : Word word) (mark : c ∈ marks) :
    word <:+: before ++ c :: after ↔ word <:+: before ∨ word <:+: after :=
  Text.splitPiece (whole.unmarked c mark)

theorem behind (whole : Word word) (mark : c ∈ marks) : word <:+: c :: after ↔ word <:+: after := by
  have split : word <:+: [] ++ c :: after ↔ _ := whole.across mark
  rwa [List.infix_nil,iff_false_intro whole.filled,false_or] at split

theorem enclosed (whole : Word word) (opens : c ∈ marks) (closes : d ∈ marks) :
    word <:+: [c] ++ inner ++ [d] ↔ word <:+: inner := by
  have last : word <:+: [c] ++ inner ++ [d] ↔ _ := whole.across closes
  rw [List.infix_nil,iff_false_intro whole.filled,or_false] at last
  exact last.trans (whole.behind opens)

theorem quoted (whole : Word word) (t : Text) : word <:+: quote t ↔ word <:+: escape t :=
  whole.enclosed (by decide) (by decide)

theorem member (whole : Word word) (key written : Text) :
    word <:+: quote key ++ spaced.key ++ written ↔ word <:+: escape key ∨ word <:+: written := by
  have separated : quote key ++ spaced.key ++ written =
      (quote key ++ [BotGateway.colon]) ++ (' ' : CodePoint) :: written := by
    simp [spaced,Text.ofString,BotGateway.colon]
  have named : quote key ++ [BotGateway.colon] =
      ([('"' : CodePoint)] ++ escape key) ++ ('"' : CodePoint) :: [BotGateway.colon] := by
    simp [quote,escape,Text.ofString]
  rw [separated,whole.across (by decide),named,whole.across (by decide),List.singleton_append,
    whole.behind (by decide),iff_false_intro (whole.alone BotGateway.colon),or_false]

theorem next (whole : Word word) (first rest : Text) :
    word <:+: first ++ spaced.item ++ rest ↔ word <:+: first ∨ word <:+: rest := by
  have separated : first ++ spaced.item ++ rest =
      first ++ (',' : CodePoint) :: (' ' : CodePoint) :: rest := by
    simp [spaced,Text.ofString]
  rw [separated,whole.across (by decide),whole.behind (by decide)]

end Word

section Written
variable {word : Text}

mutual

theorem showsWritten (whole : Word word) :
    (json : Json) → (word <:+: write spaced json ↔ Shows word json.texts)
  | .null => iff_of_false (whole.apart (by decide)) showsNil
  | .bool true => iff_of_false (whole.apart (by decide)) showsNil
  | .bool false => iff_of_false (whole.apart (by decide)) showsNil
  | .int n => iff_of_false (whole.apart (Numeral.noColonInt n)) showsNil
  | .float x =>
    iff_of_false (whole.apart (Binary64.noColonRendered (by decide) (by decide) x)) showsNil
  | .text t => by
    rw [write,texts,showsCons,iff_false_intro showsNil,or_false]
    exact whole.quoted t
  | .array items => (whole.enclosed (by decide) (by decide)).trans (showsItems whole items)
  | .object members => (whole.enclosed (by decide) (by decide)).trans (showsMembers whole members)

theorem showsItems (whole : Word word) :
    (items : List Json) → (word <:+: writeItems spaced items ↔ Shows word (itemTexts items))
  | [] => iff_of_false (fun within => whole.filled (List.infix_nil.mp within)) showsNil
  | [item] => by
    rw [writeItems,itemTexts,itemTexts,List.append_nil]
    exact showsWritten whole item
  | item :: next :: rest => by
    rw [writeItems,itemTexts,showsAppend,whole.next,showsWritten whole item,
      showsItems whole (next :: rest)]

theorem showsMembers (whole : Word word) :
    (members : List (Text × Json)) →
      (word <:+: writeMembers spaced members ↔ Shows word (memberTexts members))
  | [] => iff_of_false (fun within => whole.filled (List.infix_nil.mp within)) showsNil
  | [(key,value)] => by
    rw [writeMembers,memberTexts,memberTexts,List.append_nil,showsCons,whole.member,
      showsWritten whole value]
  | (key,value) :: next :: rest => by
    rw [writeMembers,memberTexts,showsCons,showsAppend,whole.next,whole.member,
      showsWritten whole value,showsMembers whole (next :: rest),or_assoc]

end

end Written

inductive RunsOn (word : Text) : Text → Prop where
  | here {c : CodePoint} {head tail after : Text} (escaped : escapeOne c ≠ [c])
      (ends : head <:+ escapeOne c) (some : head ≠ []) (begins : tail <+: escape after)
      (whole : word = head ++ tail) : RunsOn word (c :: after)
  | later {c : CodePoint} {after : Text} (rest : RunsOn word after) : RunsOn word (c :: after)

theorem RunsOn.within {word t : Text} (runs : RunsOn word t) : word <:+: escape t := by
  induction runs with
  | @here c head tail after escaped ends some begins whole =>
    rw [whole,escape,List.flatMap_cons]
    exact List.infix_append_iff.mpr (.inr (.inr ⟨head,tail,rfl,ends,begins⟩))
  | later rest ih => exact List.infix_append_iff.mpr (.inr (.inl ih))

theorem escapeControl (n : Fin 0x20) :
    (escapeOne (CodePoint.ofNat n)).head? = some '\\' ∧ colon ∉ escapeOne (CodePoint.ofNat n) := by
  revert n
  decide

theorem escapeEither (c : CodePoint) : escapeOne c = [c] ∨
    (escapeOne c).head? = some ('\\' : CodePoint) ∧ colon ∉ escapeOne c := by
  by_cases control : c.val < 0x20
  · have same : c = CodePoint.ofNat (⟨c.val,control⟩ : Fin 0x20) :=
      Fin.ext (Nat.mod_eq_of_lt c.isLt).symm
    rw [same]
    exact .inr (escapeControl _)
  · rw [escapeOne]
    split
    · exact .inr (by decide)
    split
    · exact .inr (by decide)
    rw [if_pos (Nat.not_lt.mp control)]
    exact .inl rfl

def Unescaped (t : Text) : Prop := ∀ c ∈ t, escapeOne c = [c]

instance (t : Text) : Decidable (Unescaped t) :=
  List.decidableBAll (fun c => escapeOne c = [c]) t

@[simp] theorem unescapedAppend {s t : Text} : Unescaped (s ++ t) ↔ Unescaped s ∧ Unescaped t := by
  simp [Unescaped,or_imp,forall_and]

theorem unescapedDigits {t : Text} (digits : ∀ c ∈ t, Class.isAsciiDigit c = true) :
    Unescaped t := by
  intro c member
  have digit := digits c member
  simp only [Class.isAsciiDigit,Bool.and_eq_true,decide_eq_true_eq] at digit
  have other {mark : CodePoint} (below : mark.val < 0x30 ∨ 0x39 < mark.val) : ¬ (c == mark) = true := by
    intro same
    obtain rfl := eq_of_beq same
    omega
  rw [escapeOne,if_neg (other (by decide)),if_neg (other (by decide)),if_pos (by omega)]

theorem escapeUnescaped {t : Text} (plain : Unescaped t) : escape t = t := by
  induction t with
  | nil => rfl
  | cons c rest ih =>
    have later := ih fun x member => plain x (List.mem_cons_of_mem c member)
    rw [escape] at later
    rw [escape,List.flatMap_cons,later,plain c List.mem_cons_self,List.singleton_append]

theorem escapePrefix {piece t : Text} (plain : ('\\' : CodePoint) ∉ piece)
    (begins : piece <+: escape t) : piece <+: t := by
  induction t generalizing piece with
  | nil => exact begins
  | cons c rest ih =>
    cases piece with
    | nil => exact List.nil_prefix
    | cons x piece =>
      rw [escape,List.flatMap_cons] at begins
      rcases escapeEither c with same | ⟨mark,_⟩
      · rw [same,List.singleton_append,List.cons_prefix_cons] at begins
        obtain ⟨rfl,later⟩ := begins
        exact List.cons_prefix_cons.mpr ⟨rfl,ih (List.not_mem_of_not_mem_cons plain) later⟩
      · obtain ⟨others,escaped⟩ := List.head?_eq_some_iff.mp mark
        rw [escaped,List.cons_append,List.cons_prefix_cons] at begins
        exact absurd (begins.1 ▸ List.mem_cons_self) plain

theorem Word.source {word : Text} (whole : Word word) {t : Text} (within : word <:+: escape t) :
    word <:+: t ∨ RunsOn word t := by
  have plain : ('\\' : CodePoint) ∉ word := whole.unmarked _ (by decide)
  induction t with
  | nil => exact .inl within
  | cons c rest ih =>
    rw [escape,List.flatMap_cons] at within
    rcases List.infix_append_iff.mp within with inside | later | ⟨head,tail,same,ends,begins⟩
    -- a word does not stand within one escape, which holds no colon
    · rcases escapeEither c with plain | ⟨_,free⟩
      · exact absurd (plain ▸ inside) (whole.alone c)
      · exact absurd inside (whole.apart free)
    · exact (ih later).imp List.infix_cons .later
    · cases head with
      | nil => exact (ih (same ▸ begins.isInfix)).imp List.infix_cons .later
      | cons x head =>
        by_cases itself : escapeOne c = [c]
        · rw [itself] at ends
          have first : x :: head = [c] := ends.eq_of_length_le (Nat.succ_le_succ (Nat.zero_le _))
          rw [first,List.singleton_append] at same
          have part : tail <+: rest :=
            escapePrefix (List.not_mem_of_not_mem_cons (same ▸ plain)) begins
          exact .inl (same ▸ List.cons_prefix_cons.mpr ⟨rfl,part⟩).isInfix
        · exact .inr (.here itself ends (List.cons_ne_nil x head) begins same)

end BotGateway.Json
