import BotGateway.Proofs.Journal.Masking
import BotGateway.Proofs.Text.Orders
import Mathlib.Data.List.Nodup

/-! Tokens are kept as a set: they may be registered in any order, and masked in any other. -/
namespace BotGateway.Redaction
open Text (Clear Meet Orderless Unbordered)
variable {added order first second : List Text} {token t : Text}

theorem addNodup {redaction : Redaction} (distinct : redaction.tokens.Nodup) :
    (redaction.add token).tokens.Nodup := by
  rw [add]
  split
  · exact distinct
  · rename_i new
    simp only [Bool.or_eq_true,List.contains_iff_mem,not_or] at new
    rw [List.nodup_append]
    apply And.intro distinct
    apply And.intro (List.nodup_singleton token)
    intro known inside other single same
    rw [List.mem_singleton.mp single] at same
    exact new.2 (same ▸ inside)

theorem registeredNodup {redaction : Redaction} (distinct : redaction.tokens.Nodup) :
    (added.foldl add redaction).tokens.Nodup := by
  induction added generalizing redaction with
  | nil => exact distinct
  | cons token rest ih => exact ih (addNodup distinct)

def OrderOf (added order : List Text) : Prop :=
  ∃ others : List Text, (∀ token, token ∈ others ↔ token ∈ added) ∧ order.Perm (others.foldl add .empty).tokens

theorem OrderOf.distinct (ordered : OrderOf added order) : order.Nodup := by
  obtain ⟨others,_,same⟩ := ordered
  exact same.nodup_iff.mpr (registeredNodup List.nodup_nil)

theorem OrderOf.among (ordered : OrderOf added order) : token ∈ order ↔ token ∈ added ∧ token ≠ [] := by
  obtain ⟨others,alike,same⟩ := ordered
  rw [same.mem_iff,registeredAmong,alike]
  exact or_iff_right List.not_mem_nil

theorem OrderOf.perm (ordered : OrderOf added first) (other : OrderOf added second) :
    first.Perm second := by
  apply (List.perm_ext_iff_of_nodup ordered.distinct other.distinct).mpr
  intro token
  rw [ordered.among,other.among]

def Alike (added : List Text) (t : Text) : Prop :=
  ∀ first second, OrderOf added first → OrderOf added second →
    redact ⟨first⟩ t = redact ⟨second⟩ t

def Parted (added : List Text) (t : Text) : Prop :=
  ∀ first ∈ added, ∀ second ∈ added, first ≠ second → ¬ Meet first second t

theorem partedAlike (clear : ∀ token ∈ added, Clear token BotGateway.mask) (parted : Parted added t) :
    Alike added t := by
  intro first second ordered other
  apply Text.patchedOrders (ordered.perm other)
  · exact fun token among => clear token (ordered.among.mp among).1
  · exact fun token inFirst next inSecond =>
      parted token (ordered.among.mp inFirst).1 next (ordered.among.mp inSecond).1

theorem alikeIff : (∀ t, Alike added t) ↔ Orderless BotGateway.mask (added.foldl add .empty).tokens := by
  have registered : OrderOf added (added.foldl add .empty).tokens := ⟨added,fun _ => .rfl,.rfl⟩
  constructor
  · intro alike order same t
    exact alike t order _ ⟨added,fun _ => .rfl,same⟩ registered
  · intro orderless t first second ordered other
    exact (orderless first (ordered.perm registered) t).trans
      (orderless second (other.perm registered) t).symm

theorem maskUnbordered : Unbordered BotGateway.mask := by
  have borders : ∀ piece ∈ BotGateway.mask.inits,
      piece <:+ BotGateway.mask → piece = [] ∨ piece = BotGateway.mask := by decide +kernel
  exact fun piece begins => borders piece ((List.mem_inits piece _).mpr begins)

/-- Tokens that the mask does not touch: where no two of them meet, each is masked as if it came first,
whatever the order; and no order matters anywhere exactly when no two of them can meet. -/
theorem orderlessExactly (clear : ∀ token ∈ added, Clear token BotGateway.mask) :
    (∀ t, Parted added t → Alike added t ∧ ∀ order, OrderOf added order → ∀ token ∈ added,
      redact ⟨order⟩ t = redact ⟨order.erase token⟩ (Text.replaceAll token BotGateway.mask t)) ∧
    ((∀ t, Alike added t) ↔
      ∀ first ∈ added, ∀ second ∈ added, first ≠ second → Clear first second) := by
  constructor
  · intro t parted
    have alike := partedAlike clear parted
    apply And.intro alike
    intro order ordered token among
    have inOrder : token ∈ order := ordered.among.mpr ⟨among,(clear token among).filled⟩
    have leading : OrderOf added (token :: order.erase token) := by
      obtain ⟨others,same,perm⟩ := ordered
      exact ⟨others,same,(List.perm_cons_erase inOrder).symm.trans perm⟩
    exact alike _ _ ordered leading
  · have registered : OrderOf added (added.foldl add .empty).tokens := ⟨added,fun _ => .rfl,.rfl⟩
    have known {token : Text} : token ∈ (added.foldl add .empty).tokens ↔ token ∈ added := by
      rw [registered.among]
      exact and_iff_left_of_imp fun among => (clear token among).filled
    rw [alikeIff,Text.orderlessIff (fun token among => clear token (known.mp among)) maskUnbordered]
    simp only [known]

def other : Text := Text.ofString "2:" ++ List.replicate 35 ('b' : CodePoint)

theorem bothOrderless : (∀ token ∈ [Event.secret,other], Clear token BotGateway.mask) ∧
    ∀ t, Alike [Event.secret,other] t := by
  have clear : ∀ token ∈ [Event.secret,other], Clear token BotGateway.mask := by decide +kernel
  have apart : ∀ first ∈ [Event.secret,other], ∀ second ∈ [Event.secret,other],
      first ≠ second → Clear first second := by decide +kernel
  exact ⟨clear,(orderlessExactly clear).2.mpr apart⟩

def outer : Text := ('2' : CodePoint) :: Event.secret

theorem innerFirstShows : Token.isValid Event.secret = true ∧ Token.isValid outer = true ∧
    redact ⟨[Event.secret,outer]⟩ outer = ('2' : CodePoint) :: BotGateway.mask ∧
    redact ⟨[outer,Event.secret]⟩ outer = BotGateway.mask ∧ ¬ Alike [Event.secret,outer] outer := by
  have broken : redact ⟨[Event.secret,outer]⟩ outer = ('2' : CodePoint) :: BotGateway.mask := by
    decide +kernel
  have whole : redact ⟨[outer,Event.secret]⟩ outer = BotGateway.mask := by decide +kernel
  have ordered : OrderOf [Event.secret,outer] [Event.secret,outer] :=
    ⟨_,fun _ => .rfl,by decide +kernel⟩
  have turned : OrderOf [Event.secret,outer] [outer,Event.secret] :=
    ⟨_,fun _ => .rfl,by decide +kernel⟩
  apply And.intro (by decide +kernel)
  apply And.intro (by decide +kernel)
  apply And.intro broken
  apply And.intro whole
  intro alike
  have same := alike _ _ ordered turned
  rw [broken,whole] at same
  exact List.cons_ne_self _ _ same

end BotGateway.Redaction
