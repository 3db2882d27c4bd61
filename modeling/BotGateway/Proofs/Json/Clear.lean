import BotGateway.Proofs.Json.Found
import BotGateway.Proofs.Text.Utf8

/-! Documents that go out again as they came in: their texts have no surrogates, and their integers are
short. Every document that was read strictly is one of them. -/
namespace BotGateway.Json
open Utf8

inductive Clear : Json → Prop where
  | null : Clear .null
  | bool (b : Bool) : Clear (.bool b)
  | int {n : Int} (short : Numeral.isLong n = false) : Clear (.int n)
  | float (x : Binary64) : Clear (.float x)
  | text {t : Text} (encodable : Encodable t) : Clear (.text t)
  | array {items : List Json} (clear : ∀ item ∈ items, Clear item) : Clear (.array items)
  | object {members : List (Text × Json)} (clear : ∀ member ∈ members, Clear member.2) :
      Clear (.object members)

section Strings
variable {t rest content : Text}

def Piece.Plain : Piece → Prop
  | .plain c => isSurrogate c = false
  | .numbered n => n < 0x10000

theorem simplePlain {e c : CodePoint} (simple : simpleEscape e = some c)
    (plain : isSurrogate e = false) : isSurrogate c = false := by
  unfold simpleEscape at simple
  split at simple
  · cases simple
    exact plain
  · repeat' split at simple
    all_goals cases simple
    all_goals decide

theorem cutPlain {found : List Piece} (cut : Cut t found rest) (encodable : Encodable t) :
    ∀ piece ∈ found, piece.Plain := by
  induction cut with
  | ends => exact nofun
  | plain _ ih =>
    obtain ⟨first,later⟩ := (encodableCons _ _).mp encodable
    exact List.forall_mem_cons.mpr ⟨first,ih later⟩
  | escaped simple _ ih =>
    simp only [encodableCons] at encodable
    exact List.forall_mem_cons.mpr ⟨simplePlain simple encodable.2.1,ih encodable.2.2⟩
  | numbered small _ ih =>
    simp only [encodableCons] at encodable
    exact List.forall_mem_cons.mpr ⟨small,ih encodable.2.2.2.2.2.2⟩

theorem aloneEncodable {n : Nat} (small : n < 0x10000)
    (alone : ¬((Wide.isHigh n || Wide.isLow n) && !false) = true) :
    isSurrogate (CodePoint.ofNat n) = false := by
  have bound : n < 0x110000 := by omega
  simp only [Wide.isHigh,Wide.isLow,Bool.not_false,Bool.and_true,Bool.or_eq_true,Bool.and_eq_true,
    decide_eq_true_eq] at alone
  simp only [isSurrogate,CodePoint.ofNat,Nat.mod_eq_of_lt bound,Bool.and_eq_false_iff,
    decide_eq_false_iff_not]
  omega

theorem joinedEncodable {n m : Nat} (pair : (Wide.isHigh n && Wide.isLow m) = true) :
    isSurrogate (Wide.joined n m) = false := by
  simp only [Wide.isHigh,Wide.isLow,Bool.and_eq_true,decide_eq_true_eq] at pair
  have bound : 0x10000 + (n - 0xD800) * 0x400 + (m - 0xDC00) < 0x110000 := by omega
  simp only [isSurrogate,Wide.joined,CodePoint.ofNat,Nat.mod_eq_of_lt bound,Bool.and_eq_false_iff,
    decide_eq_false_iff_not]
  omega

theorem joinEncodable {found : List Piece} (plain : ∀ piece ∈ found, piece.Plain)
    (joined : joinPieces false found = some content) : Encodable content := by
  fun_induction joinPieces false found generalizing content with
  | case1 =>
    cases joined
    exact encodableNil
  | case2 c rest ih =>
    obtain ⟨first,later⟩ := List.forall_mem_cons.mp plain
    obtain ⟨others,read,rfl⟩ := Option.map_eq_some_iff.mp joined
    exact (encodableCons _ _).mpr ⟨first,ih later read⟩
  | case3 n m rest pair ih =>
    obtain ⟨_,_,later⟩ := List.forall_mem_cons.mp plain |>.imp_right List.forall_mem_cons.mp
    obtain ⟨others,read,rfl⟩ := Option.map_eq_some_iff.mp joined
    exact (encodableCons _ _).mpr ⟨joinedEncodable pair,ih later read⟩
  | case5 n m rest _ alone ih =>
    obtain ⟨first,later⟩ := List.forall_mem_cons.mp plain
    obtain ⟨others,read,rfl⟩ := Option.map_eq_some_iff.mp joined
    exact (encodableCons _ _).mpr ⟨aloneEncodable first alone,ih later read⟩
  | case7 n rest _ alone ih =>
    obtain ⟨first,later⟩ := List.forall_mem_cons.mp plain
    obtain ⟨others,read,rfl⟩ := Option.map_eq_some_iff.mp joined
    exact (encodableCons _ _).mpr ⟨aloneEncodable first alone,ih later read⟩
  | case4 | case6 => cases joined

theorem strictEncodable (encodable : Encodable t) (read : string strict t = some (content,rest)) :
    Encodable content := by
  obtain ⟨⟨found,tail⟩,inText,read⟩ := Option.bind_eq_some_iff.mp read
  obtain ⟨joined,joins,same⟩ := Option.bind_eq_some_iff.mp read
  cases same
  exact joinEncodable (cutPlain (piecesCut inText) encodable) joins

end Strings

theorem Found.clear {whole : Text} {json : Json} (encodable : Encodable whole)
    (found : Found strict whole json) : json.Clear := by
  induction found with
  | null => exact .null
  | bool b => exact .bool b
  | int short => exact .int short
  | float x => exact .float x
  | text stands read =>
    have start := fun c member => encodable c (stands.subset member)
    exact .text (strictEncodable start read)
  | array _ ih => exact .array ih
  | object _ ih => exact .object ih

end BotGateway.Json
