import BotGateway.Proofs.Number.Layout
import BotGateway.Proofs.Number.Reading
import BotGateway.Proofs.Text.Cutting
import BotGateway.Proofs.Text.Trimming
import BotGateway.Webhook.Address

/-! Which texts are addresses. One is taken where a port of decimal digits stands behind its last
colon, and what is written of a host and a port is taken for them. Other texts are refused by name,
but for those whose port consists of digits that make no number. -/
namespace BotGateway.Address

structure Cut (address host port : Text) : Prop where
  whole : address = host ++ colon :: port
  last : colon ∉ port

structure IsPort (port : Text) : Prop where
  filled : port ≠ []
  decimal : ∀ c ∈ port, Class.isDecimal c = true
  short : port.length ≤ Numeral.maxDigits

def portValue (port : Text) : Nat :=
  Numeral.value 10 (port.map fun c => (Class.decimalValue c).getD 0)

def refusal (address : Text) : Text :=
  "invalid webhook address " ++ Quoted.text address ++ ", expected 'host:port'"

inductive Due (address : Text) : Except Failure Address → Prop where
  | taken {host port} (cut : Cut address host port) (numbered : IsPort port) :
      Due address (.ok ⟨hostOf host,portValue port⟩)
  | refused {failure} (unnumbered : ∀ host port, Cut address host port → ¬IsPort port)
      (kind : failure.kind = .value) (named : failure.message = refusal address) :
      Due address (.error failure)

def Readable (address : Text) : Prop :=
  ∀ host port, Cut address host port → port ≠ [] → (∀ c ∈ port, Class.isDigit c = true) → IsPort port

variable {address host port : Text}

theorem Cut.split (cut : Cut address host port) :
    Text.splitLast (':' : CodePoint) address = some (host,port) := by
  rw [cut.whole]
  exact Text.splitLastAt cut.last host

theorem Cut.same {otherHost otherPort : Text} (cut : Cut address host port)
    (other : Cut address otherHost otherPort) : host = otherHost ∧ port = otherPort := by
  have same := cut.split.symm.trans other.split
  cases same
  exact ⟨rfl,rfl⟩

theorem parseNumbered (cut : Cut address host port) (numbered : IsPort port) :
    parse address = .ok ⟨hostOf host,portValue port⟩ := by
  have digits : port.all Class.isDigit = true :=
    List.all_eq_true.mpr fun c member => Class.decimalDigit (numbered.decimal c member)
  have filled : port.isEmpty = false := List.isEmpty_eq_false_iff.mpr numbered.filled
  have read := Numeral.readDecimals numbered.filled numbered.decimal numbered.short
  simp only [parse,cut.split,filled,digits,Bool.not_true,Bool.or_self,Bool.false_eq_true,if_false,read]
  rfl

theorem parseUncut (uncut : colon ∉ address) : parse address = .error (.badAddress address) := by
  have split : Text.splitLast (':' : CodePoint) address = none := Text.splitLastNone uncut
  simp only [parse,split]

theorem parseUndigited (cut : Cut address host port)
    (undigited : ¬(port ≠ [] ∧ ∀ c ∈ port, Class.isDigit c = true)) :
    parse address = .error (.badAddress address) := by
  have refuses : (port.isEmpty || !port.all Class.isDigit) = true := by
    by_contra passes
    rw [Bool.not_eq_true,Bool.or_eq_false_iff,Bool.not_eq_false'] at passes
    exact undigited ⟨List.isEmpty_eq_false_iff.mp passes.1,List.all_eq_true.mp passes.2⟩
  simp only [parse,cut.split,refuses,if_true]

theorem parseMisread (cut : Cut address host port) (filled : port ≠ [])
    (digits : ∀ c ∈ port, Class.isDigit c = true) (unnumbered : ¬IsPort port) :
    ∃ fault, parse address = .error (.numeral 10 (Quoted.text port) fault) := by
  have all : port.all Class.isDigit = true := List.all_eq_true.mpr digits
  have nonempty : port.isEmpty = false := List.isEmpty_eq_false_iff.mpr filled
  cases read : Numeral.readDecimal port with
  | ok n =>
    obtain ⟨decimal,short⟩ := (Numeral.readDigits filled digits).mp ⟨n,read⟩
    exact absurd ⟨filled,decimal,short⟩ unnumbered
  | error fault =>
    refine ⟨fault,?_⟩
    simp only [parse,cut.split,nonempty,all,Bool.not_true,Bool.or_self,Bool.false_eq_true,if_false,read]

theorem numeralUnnamed (quoted : Text) (fault : Numeral.Fault) (address : Text) :
    (Failure.numeral 10 quoted fault).message ≠ refusal address := by
  intro same
  cases fault with
  | invalid =>
    have start : ("invalid l" : Text) = "invalid w" := congrArg (List.take 9) same
    revert start
    decide
  | tooLong digits =>
    have start : ("E" : Text) = "i" := congrArg (List.take 1) same
    revert start
    decide

theorem dueExactly (address : Text) : Due address (parse address) ↔ Readable address := by
  by_cases inside : colon ∈ address
  · obtain ⟨host,port,whole,last⟩ := Text.lastPlace inside
    have cut : Cut address host port := ⟨whole,last⟩
    by_cases numbered : IsPort port
    · rw [parseNumbered cut numbered]
      refine iff_of_true (.taken cut numbered) fun _ _ other _ _ => ?_
      exact (cut.same other).2 ▸ numbered
    have unnumbered : ∀ host port, Cut address host port → ¬IsPort port := by
      intro _ _ other
      exact (cut.same other).2 ▸ numbered
    by_cases digits : port ≠ [] ∧ ∀ c ∈ port, Class.isDigit c = true
    · obtain ⟨fault,misread⟩ := parseMisread cut digits.1 digits.2 numbered
      rw [misread]
      refine iff_of_false (fun due => ?_) fun readable =>
        numbered (readable host port cut digits.1 digits.2)
      cases due with
      | refused _ _ named => exact numeralUnnamed _ fault address named
    · rw [parseUndigited cut digits]
      refine iff_of_true (.refused unnumbered rfl rfl) fun _ _ other filled all => ?_
      obtain ⟨rfl,rfl⟩ := cut.same other
      exact absurd ⟨filled,all⟩ digits
  · have uncut : ∀ host port, ¬Cut address host port := fun host port cut =>
      inside (cut.whole ▸ List.mem_append_right host List.mem_cons_self)
    rw [parseUncut inside]
    exact iff_of_true (.refused (fun host port cut => absurd cut (uncut host port)) rfl rfl)
      fun host port cut => absurd cut (uncut host port)

section Written

structure Unbracketed (host : Text) : Prop where
  filled : host ≠ []
  first : ∀ c ∈ host.head?, isBracket c = false
  last : ∀ c ∈ host.getLast?, isBracket c = false

theorem hostTrimmed (unbracketed : Unbracketed host) {before after : Text}
    (ahead : ∀ c ∈ before, isBracket c = true) (behind : ∀ c ∈ after, isBracket c = true) :
    hostOf (before ++ host ++ after) = host := by
  have filled : host.isEmpty = false := List.isEmpty_eq_false_iff.mpr unbracketed.filled
  rw [hostOf,Text.trimEnds unbracketed.filled ahead unbracketed.first unbracketed.last behind]
  simp only [filled,Bool.false_eq_true,if_false]

theorem portWritten {n : Nat} (small : n < 65536) :
    IsPort (Numeral.ofNat n) ∧ portValue (Numeral.ofNat n) = n := by
  obtain ⟨filled,digits⟩ := Json.digitsNumeral n
  have decimal : ∀ c ∈ Numeral.ofNat n, Class.decimalValue c = some (c.val - 48) := fun c member =>
    Class.asciiDecimal (digits c member)
  have short := Nat.toDigits_length 10 n 5 (by decide) (by omega)
  refine ⟨⟨filled,fun c member => ?_,?_⟩,?_⟩
  · rw [Class.isDecimal,decimal c member]
    rfl
  · rw [Numeral.ofNat,List.length_map,Numeral.maxDigits]
    omega
  · have figures : (Numeral.ofNat n).map (fun c => (Class.decimalValue c).getD 0) =
        Json.figures (Numeral.ofNat n) :=
      List.map_congr_left fun c member => by rw [decimal c member]; rfl
    rw [portValue,figures,Json.figuresNumeral]

theorem writtenRead (host : Text) {n : Nat} (small : n < 65536) :
    parse (host ++ colon :: Numeral.ofNat n) = .ok ⟨hostOf host,n⟩ := by
  obtain ⟨port,value⟩ := portWritten small
  rw [parseNumbered ⟨rfl,Numeral.noColon n⟩ port,value]

end Written

structure ReadBack (host : Text) (port : Nat) : Prop where
  plain : parse (host ++ ":" ++ Numeral.ofNat port) = .ok ⟨host,port⟩
  bracketed : parse ("[" ++ host ++ "]:" ++ Numeral.ofNat port) = .ok ⟨host,port⟩

theorem parsesExactly (address : Text) : (Due address (parse address) ↔ Readable address) ∧
    (∀ host port, Unbracketed host → port < 65536 → ReadBack host port) ∧
    ∀ port < 65536, parse (":" ++ Numeral.ofNat port) = .ok ⟨everywhere,port⟩ := by
  refine ⟨dueExactly address,fun host port unbracketed small => ?_,fun port small => ?_⟩
  · have plain : hostOf ([] ++ host ++ []) = host := hostTrimmed unbracketed nofun nofun
    have bracketed : hostOf ("[" ++ host ++ "]") = host :=
      hostTrimmed unbracketed (List.all_eq_true.mp rfl) (List.all_eq_true.mp rfl)
    constructor
    · have read := writtenRead host small
      rw [List.nil_append,List.append_nil] at plain
      rw [plain] at read
      rw [List.append_assoc]
      exact read
    · have read := writtenRead ("[" ++ host ++ "]") small
      rw [bracketed] at read
      have layout : ("[" ++ host ++ "]:" ++ Numeral.ofNat port : Text) =
          "[" ++ host ++ "]" ++ colon :: Numeral.ofNat port := by
        simp [Text.ofString,colon]
      rw [layout]
      exact read
  · exact writtenRead [] small

theorem loopbackRead : Unbracketed "::1" ∧ 80 < 65536 ∧ ReadBack "::1" 80 ∧
    parse (":" ++ Numeral.ofNat 80) = .ok ⟨everywhere,80⟩ := by
  have unbracketed : Unbracketed "::1" := ⟨nofun,by rintro _ ⟨⟩; decide,by rintro _ ⟨⟩; decide⟩
  obtain ⟨_,readBack,unnamed⟩ := parsesExactly "[::1]:80"
  exact ⟨unbracketed,by decide,readBack "::1" 80 unbracketed (by decide),unnamed 80 (by decide)⟩

theorem superscriptUnnamed : parse "h:²" = .error (.numeral 10 (Quoted.text "²") .invalid) ∧
    ¬Due "h:²" (parse "h:²") := by
  have misread : parse "h:²" = .error (.numeral 10 (Quoted.text "²") .invalid) := rfl
  refine ⟨misread,fun due => ?_⟩
  rw [misread] at due
  cases due with
  | refused _ _ named => exact numeralUnnamed _ .invalid _ named

end BotGateway.Address
