import BotGateway.Proofs.Text.Utf8
import Mathlib.Data.List.Infix

/-! Words within lists that were written out one member at a time, and within texts written as UTF-8. -/
namespace BotGateway

namespace Text
variable {α β : Type}

/-- A way of writing that keeps the plain members, one for one. Whatever it writes for another begins
with nothing of the word, and the word does not begin within it. -/
structure Plainly (f : α → List β) (e : α → β) (plain : α → Prop) (word : List α) : Prop where
  kept : ∀ {c}, plain c → f c = [e c] ∧ ∀ w ∈ word, e c = e w → c = w
  foreign : ∀ {c}, ¬ plain c → ∃ b more, f c = b :: more ∧ b ∉ word.map e ∧
    ∀ w ∈ word.head?, e w ∉ more

variable {items : List α} {f : α → List β} {e : α → β} {plain : α → Prop} {word : List α}

theorem prefixWritten (kept : ∀ {c}, plain c → f c = [e c] ∧ ∀ w ∈ word, e c = e w → c = w)
    (foreign : ∀ {c}, ¬ plain c → ∃ b more, f c = b :: more ∧ b ∉ word.map e)
    (starts : word.map e <+: items.flatMap f) : word <+: items := by
  induction items generalizing word with
  | nil => exact List.map_eq_nil_iff.mp (List.prefix_nil.mp starts) ▸ List.nil_prefix
  | cons c rest ih =>
    cases word with
    | nil => exact List.nil_prefix
    | cons w word =>
      rw [List.flatMap_cons,List.map_cons] at starts
      by_cases here : plain c
      · obtain ⟨single,apart⟩ := kept here
        rw [single,List.singleton_append,List.cons_prefix_cons] at starts
        obtain rfl := apart w List.mem_cons_self starts.1.symm
        refine List.cons_prefix_cons.mpr ⟨rfl,ih (fun plain => ?_) (fun other => ?_) starts.2⟩
        · exact ⟨(kept plain).1,fun word member => (kept plain).2 word (.tail _ member)⟩
        · obtain ⟨b,more,written,outside⟩ := foreign other
          exact ⟨b,more,written,fun member => outside (.tail _ member)⟩
      · obtain ⟨b,more,written,outside⟩ := foreign here
        rw [written,List.cons_append,List.cons_prefix_cons] at starts
        exact absurd (starts.1 ▸ List.mem_cons_self) outside

theorem Plainly.within (plainly : Plainly f e plain word)
    (within : word.map e <:+: items.flatMap f) : word <:+: items := by
  have begun {items : List α} (starts : word.map e <+: items.flatMap f) : word <+: items :=
    prefixWritten plainly.kept (fun other => by
      obtain ⟨b,more,written,outside,_⟩ := plainly.foreign other
      exact ⟨b,more,written,outside⟩) starts
  induction items with
  | nil => exact List.map_eq_nil_iff.mp (List.infix_nil.mp within) ▸ List.nil_infix
  | cons c rest ih =>
    by_cases here : plain c
    · rw [List.flatMap_cons,(plainly.kept here).1,List.singleton_append] at within
      rcases List.infix_cons_iff.mp within with starts | later
      · have whole : word.map e <+: (c :: rest).flatMap f := by
          rwa [List.flatMap_cons,(plainly.kept here).1,List.singleton_append]
        exact (begun whole).isInfix
      · exact List.infix_cons (ih later)
    · obtain ⟨b,more,written,outside,begins⟩ := plainly.foreign here
      cases word with
      | nil => exact List.nil_infix
      | cons w word =>
        have first : e w ∉ f c := by
          rw [written,List.mem_cons,not_or]
          exact ⟨fun same => outside (same ▸ List.mem_cons_self),begins w rfl⟩
        rw [List.flatMap_cons] at within
        rcases List.infix_append_iff.mp within with inside | later | ⟨left,right,same,ends,starts⟩
        · exact absurd (inside.subset List.mem_cons_self) first
        · exact List.infix_cons (ih later)
        · cases left with
          | nil => exact List.infix_cons (begun (same ▸ starts)).isInfix
          | cons x left =>
            obtain ⟨rfl,_⟩ := List.cons.inj same
            exact absurd (ends.subset List.mem_cons_self) first

end Text

namespace Utf8

theorem highBytes {c : CodePoint} (high : ¬ c.val < 0x80) : ∃ b more, encodeOne c = b :: more ∧
    0x80 ≤ b.toNat ∧ ∀ other ∈ more, 0x80 ≤ other.toNat := by
  have tail (n : Nat) : 0x80 ≤ (tailByte n).toNat := by
    rw [tailByteNat]
    omega
  have lead {base n : Nat} (enough : 0x80 ≤ base) (small : base + n < 256) :
      0x80 ≤ (UInt8.ofNat (base + n)).toNat := by
    rw [leadNat small]
    omega
  have bound := c.isLt
  simp only [encodeOne,if_neg high]
  split
  · exact ⟨_,_,rfl,lead (by decide) (by omega),by simp [tail]⟩
  · split
    · exact ⟨_,_,rfl,lead (by decide) (by omega),by simp [tail]⟩
    · exact ⟨_,_,rfl,lead (by decide) (by omega),by simp [tail]⟩

def lowByte (c : CodePoint) : UInt8 := UInt8.ofNat c.val

theorem lowWritten {c : CodePoint} (low : c.val < 0x80) : encodeOne c = [lowByte c] := by
  simp only [encodeOne,if_pos low]
  rfl

theorem lowByteNat {c : CodePoint} (low : c.val < 0x80) : (lowByte c).toNat = c.val :=
  leadNat (by omega)

theorem bytesOfLow {t : Text} (low : ∀ c ∈ t, c.val < 0x80) : bytesOf t = t.map lowByte := by
  induction t with
  | nil => rfl
  | cons c rest ih =>
    obtain ⟨here,later⟩ := List.forall_mem_cons.mp low
    rw [bytesOf,List.flatMap_cons,lowWritten here,List.map_cons,← ih later]
    rfl

theorem lowWithin {word t : Text} (low : ∀ c ∈ word, c.val < 0x80)
    (within : bytesOf word <:+: bytesOf t) : word <:+: t := by
  have plainly : Text.Plainly encodeOne lowByte (·.val < 0x80) word := by
    constructor
    · intro c here
      refine ⟨lowWritten here,fun w member same => Fin.ext ?_⟩
      rw [← lowByteNat here,same,lowByteNat (low w member)]
    · intro c high
      obtain ⟨b,more,written,first,others⟩ := highBytes high
      have apart {other : UInt8} (above : 0x80 ≤ other.toNat) {w} (member : w ∈ word) :
          lowByte w ≠ other := by
        rintro rfl
        rw [lowByteNat (low w member)] at above
        exact absurd (low w member) (by omega)
      refine ⟨b,more,written,fun member => ?_,fun w head member => ?_⟩
      · obtain ⟨w,among,same⟩ := List.mem_map.mp member
        exact apart first among same
      · exact apart (others _ member) (List.mem_of_mem_head? head) rfl
  rw [bytesOfLow low] at within
  exact plainly.within within

theorem lowAmong {c : CodePoint} {t : Text} (low : c.val < 0x80) (member : lowByte c ∈ bytesOf t) :
    c ∈ t := by
  have within : bytesOf [c] <:+: bytesOf t := by
    rw [bytesOf,List.flatMap_singleton,lowWritten low]
    exact (List.singleton_infix_iff _ _).mpr member
  have alone : ∀ x ∈ [c], x.val < 0x80 := List.forall_mem_singleton.mpr low
  exact (List.singleton_infix_iff _ _).mp (lowWithin alone within)

theorem bytesOfAppend (s t : Text) : bytesOf (s ++ t) = bytesOf s ++ bytesOf t := List.flatMap_append

end Utf8
end BotGateway
