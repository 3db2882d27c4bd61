import BotGateway.Proofs.Json.Reading
import BotGateway.Proofs.Number.Numeral
import Mathlib.Data.List.Forall2

/-! What is written of a document spells it, so it is read back as it was: with any spacing, in both
dialects, as long as its integers are short enough to be read, no object names a member twice, and
no number is fractional. -/
namespace BotGateway.Json

section Quoted

def Tells (piece : Piece) (c : CodePoint) : Prop :=
  piece = .plain c ∨ (piece = .numbered c.val ∧ c.val < 0x20)

theorem escapeSimple {e c : CodePoint} {t : Text} {ps : List Piece}
    (escape : simpleEscape e = some c) (rest : Chars t ps) :
    ∃ piece, Tells piece c ∧ Chars ([('\\' : CodePoint),e] ++ t) (piece :: ps) :=
  ⟨.plain c,.inl rfl,.simple escape rest⟩

theorem escapeSame {e c x : CodePoint} {t : Text} {ps : List Piece} (same : (c == x) = true)
    (escape : simpleEscape e = some x) (rest : Chars t ps) :
    ∃ piece, Tells piece c ∧ Chars ([('\\' : CodePoint),e] ++ t) (piece :: ps) := by
  obtain rfl := beq_iff_eq.mp same
  exact escapeSimple escape rest

theorem hexValueDigit {n : Nat} (small : n < 16) : Class.hexValue (Quoted.hexDigit n) = some n := by
  revert n
  decide

theorem escapeNumbered {c : CodePoint} {t : Text} {ps : List Piece} (control : c.val < 0x20)
    (rest : Chars t ps) :
    ∃ piece, Tells piece c ∧ Chars ("\\u" ++ Quoted.hex 4 c.val ++ t) (piece :: ps) := by
  have digit (n : Nat) : Class.hexValue (Quoted.hexDigit (n % 16)) = some (n % 16) :=
    hexValueDigit (Nat.mod_lt n (by decide))
  have value : ((c.val / 16 / 16 / 16 % 16 * 16 + c.val / 16 / 16 % 16) * 16 +
      c.val / 16 % 16) * 16 + c.val % 16 = c.val := by omega
  have written := Chars.numbered (digit (c.val / 16 / 16 / 16)) (digit (c.val / 16 / 16))
    (digit (c.val / 16)) (digit c.val) rest
  rw [value] at written
  exact ⟨_,.inr ⟨rfl,control⟩,written⟩

theorem escapeTells {c : CodePoint} {t : Text} {ps : List Piece} (rest : Chars t ps) :
    ∃ piece, Tells piece c ∧ Chars (escapeOne c ++ t) (piece :: ps) := by
  unfold escapeOne
  split
  · exact escapeSame ‹_› (by decide) rest
  rename_i quote
  split
  · exact escapeSame ‹_› (by decide) rest
  rename_i backslash
  split
  · rename_i visible
    exact ⟨.plain c,.inl rfl,.plain visible (by simpa using quote) (by simpa using backslash) rest⟩
  rename_i control
  split
  · exact escapeSame ‹_› (by decide) rest
  split
  · exact escapeSame ‹_› (by decide) rest
  split
  · exact escapeSame ‹_› (by decide) rest
  split
  · rename_i same
    obtain rfl : c = .ofNat 8 := Fin.ext same
    exact escapeSimple (by decide) rest
  split
  · rename_i same
    obtain rfl : c = .ofNat 12 := Fin.ext same
    exact escapeSimple (by decide) rest
  exact escapeNumbered (Nat.lt_of_not_le control) rest

theorem joinNumbered {loneSurrogates : Bool} {n : Nat} (plain : n < 0x20) (ps : List Piece) :
    joinPieces loneSurrogates (.numbered n :: ps) =
      (joinPieces loneSurrogates ps).map (CodePoint.ofNat n :: ·) := by
  have notHigh : Wide.isHigh n = false := by rw [Wide.isHigh,decide_eq_false (by omega),Bool.false_and]
  have notLow : Wide.isLow n = false := by rw [Wide.isLow,decide_eq_false (by omega),Bool.false_and]
  rw [joinPieces.eq_def]
  cases ps with
  | nil => simp only [notHigh,notLow,Bool.or_self,Bool.false_and,Bool.false_eq_true,if_false]
  | cons next ps =>
    cases next <;> simp only [notHigh,notLow,Bool.or_self,Bool.false_and,Bool.false_eq_true,if_false]

theorem joinTells {loneSurrogates : Bool} {ps : List Piece} {t : Text}
    (told : List.Forall₂ Tells ps t) : joinPieces loneSurrogates ps = some t := by
  induction told with
  | nil => rfl
  | @cons piece c ps t tells told ih =>
    rcases tells with rfl | ⟨rfl,control⟩
    · rw [joinPieces,ih]
      rfl
    · have same : CodePoint.ofNat c.val = c := Fin.ext (Nat.mod_eq_of_lt c.isLt)
      rw [joinNumbered control,ih,same]
      rfl

theorem quoteChars (t : Text) : ∃ ps, List.Forall₂ Tells ps t ∧ Chars (t.flatMap escapeOne) ps := by
  induction t with
  | nil => exact ⟨[],.nil,.nil⟩
  | cons c t ih =>
    obtain ⟨ps,told,chars⟩ := ih
    obtain ⟨piece,tells,chars⟩ := escapeTells chars
    exact ⟨piece :: ps,.cons tells told,chars⟩

theorem quoteKey (loneSurrogates : Bool) (t : Text) :
    ∃ ps, Chars (t.flatMap escapeOne) ps ∧ some t = joinPieces loneSurrogates ps := by
  obtain ⟨ps,told,chars⟩ := quoteChars t
  exact ⟨ps,chars,(joinTells told).symm⟩

theorem quoteSpelt (dialect : Dialect) (n : Nat) (t : Text) :
    Spelt dialect n (quote t) (some (.text t)) := by
  obtain ⟨ps,chars,joined⟩ := quoteKey dialect.loneSurrogates t
  have spelt : Spelt dialect n (quote t) _ := .text chars
  rw [← joined] at spelt
  exact spelt

end Quoted

section Numerals

theorem digitFigure {c : Char} (digit : c.isDigit = true) :
    Class.isAsciiDigit (CodePoint.ofChar c) = true ∧
    (CodePoint.ofChar c).val - 48 = c.toNat - 48 := by
  have bounds : 48 ≤ c.toNat ∧ c.toNat ≤ 57 := by
    simp only [Char.isDigit,Bool.and_eq_true,decide_eq_true_eq] at digit
    exact ⟨UInt32.le_iff_toNat_le.mp digit.1,UInt32.le_iff_toNat_le.mp digit.2⟩
  have value : (CodePoint.ofChar c).val = c.toNat := Nat.mod_eq_of_lt (by omega)
  rw [Class.isAsciiDigit,value]
  exact ⟨by simpa using bounds,rfl⟩

theorem digitsFirst {n : Nat} (positive : 0 < n) :
    ∃ c cs, Nat.toDigits 10 n = c :: cs ∧ c ≠ '0' := by
  induction n using Nat.base_induction 10 (by decide) with
  | single m small =>
    refine ⟨_,_,Nat.toDigits_of_lt_base small,?_⟩
    revert m
    decide
  | digit m k below some ih =>
    obtain ⟨c,cs,digits,first⟩ := ih some
    refine ⟨c,cs ++ Nat.toDigits 10 k,?_,first⟩
    rw [← Nat.toDigits_append_toDigits (by decide) some below,digits,List.cons_append]

theorem digitsNumeral (n : Nat) : Digits (Numeral.ofNat n) := by
  refine ⟨by simp [Numeral.ofNat,Nat.toDigits_ne_nil],?_⟩
  intro c member
  obtain ⟨char,digit,rfl⟩ := List.mem_map.mp member
  exact (digitFigure (Nat.isDigit_of_mem_toDigits (by decide) (by decide) digit)).1

theorem wholeNumeral (n : Nat) : Whole (Numeral.ofNat n) := by
  rcases Nat.eq_zero_or_pos n with rfl | positive
  · exact .zero
  · obtain ⟨c,cs,digits,first⟩ := digitsFirst positive
    have numeral := digitsNumeral n
    rw [Numeral.ofNat,digits,List.map_cons] at numeral ⊢
    exact .counted numeral fun same => first (CodePoint.ofCharInjective same)

theorem figuresNumeral (n : Nat) : Numeral.value 10 (figures (Numeral.ofNat n)) = n := by
  have figure : figures (Numeral.ofNat n) = (Nat.toDigits 10 n).map fun c => c.toNat - 48 := by
    rw [figures,Numeral.ofNat,List.map_map]
    refine List.map_congr_left fun c digit => ?_
    exact (digitFigure (Nat.isDigit_of_mem_toDigits (by decide) (by decide) digit)).2
  have read := @Nat.ofDigitChars_ten_toDigits n
  rw [Nat.ofDigitChars_eq_foldl] at read
  rw [figure,Numeral.value,List.foldl_map]
  simp only [Nat.mul_comm 10] at read
  exact read

theorem lengthNumeral (n : Nat) :
    (figures (Numeral.ofNat n)).length = (Nat.toDigits 10 n).length := by
  rw [figures,Numeral.ofNat,List.length_map,List.length_map]

theorem countedInteger {negative : Bool} {whole : List Nat}
    (few : whole.length ≤ Numeral.maxDigits) : counted negative whole [] none =
      some (.int (Numeral.signed negative (Numeral.value 10 whole))) := by
  rw [counted,if_pos (by rfl),if_neg (Nat.not_lt.mpr few)]

theorem integerSpelt (dialect : Dialect) (m : Nat) {n : Int} (short : Numeral.isLong n = false) :
    Spelt dialect m (Numeral.ofInt n) (some (.int n)) := by
  have few : (figures (Numeral.ofNat n.natAbs)).length ≤ Numeral.maxDigits := by
    rw [lengthNumeral]
    exact Nat.not_lt.mp (of_decide_eq_false short)
  have whole := wholeNumeral n.natAbs
  have value := figuresNumeral n.natAbs
  cases n with
  | ofNat n =>
    have number := Number.plain whole .none .none
    rw [countedInteger few,value,List.append_nil,List.append_nil] at number
    exact .number number
  | negSucc n =>
    have number := Number.negative whole .none .none
    rw [countedInteger few,value,List.append_nil,List.append_nil] at number
    exact .number number

end Numerals

inductive Lasting : Json → Prop where
  | null : Lasting .null
  | bool (b : Bool) : Lasting (.bool b)
  | int {n : Int} (short : Numeral.isLong n = false) : Lasting (.int n)
  | text (t : Text) : Lasting (.text t)
  | array {items : List Json} (lasting : ∀ item ∈ items, Lasting item) : Lasting (.array items)
  | object {members : List (Text × Json)} (apart : (members.map (·.1)).Nodup)
      (lasting : ∀ member ∈ members, Lasting member.2) : Lasting (.object members)

mutual

def levels : Json → Nat
  | .array (item :: rest) => itemLevels (item :: rest) + 1
  | .object (member :: rest) => memberLevels (member :: rest) + 1
  | _ => 0

def itemLevels : List Json → Nat
  | [] => 0
  | item :: rest => max (levels item) (itemLevels rest)

def memberLevels : List (Text × Json) → Nat
  | [] => 0
  | (_,value) :: rest => max (levels value) (memberLevels rest)

end

theorem itemLevelsMost {items : List Json} {item : Json} (member : item ∈ items) :
    levels item ≤ itemLevels items := by
  induction items with
  | nil => cases member
  | cons first rest ih =>
    rw [itemLevels]
    rcases List.mem_cons.mp member with rfl | later
    · exact Nat.le_max_left _ _
    · exact (ih later).trans (Nat.le_max_right _ _)

theorem memberLevelsMost {members : List (Text × Json)} {entry : Text × Json}
    (member : entry ∈ members) : levels entry.2 ≤ memberLevels members := by
  induction members with
  | nil => cases member
  | cons first rest ih =>
    rw [memberLevels]
    rcases List.mem_cons.mp member with rfl | later
    · exact Nat.le_max_left _ _
    · exact (ih later).trans (Nat.le_max_right _ _)

theorem blankNil : Blank [] := by simp [Blank]

structure Spacing.Plain (spacing : Spacing) (afterItem afterKey : Text) : Prop where
  item : spacing.item = (',' : CodePoint) :: afterItem
  itemBlank : Blank afterItem
  key : spacing.key = (':' : CodePoint) :: afterKey
  keyBlank : Blank afterKey

theorem compactPlain : compact.Plain [] [] := ⟨rfl,blankNil,rfl,blankNil⟩

theorem Spelt.spaced {dialect : Dialect} {n : Nat} {before t : Text} {meaning : Option Json}
    (first : Blank before) (spelt : Spelt dialect n t meaning) :
    Spelt dialect n (before ++ t) meaning := by
  have padded : Spelt dialect n (before ++ (t ++ [])) meaning :=
    .padded first spelt (blankNil)
  rwa [List.append_nil] at padded

section Parts
variable {spacing : Spacing} {afterItem afterKey : Text}

def itemParts (spacing : Spacing) (afterItem : Text) : Text → List Json → List (Text × Option Json)
  | _, [] => []
  | before, item :: rest =>
    (before ++ write spacing item,some item) :: itemParts spacing afterItem afterItem rest

theorem itemPartsJoin (plain : spacing.Plain afterItem afterKey) (before : Text) (item : Json)
    (rest : List Json) : before ++ writeItems spacing (item :: rest) =
      Text.join "," ((itemParts spacing afterItem before (item :: rest)).map (·.1)) := by
  induction rest generalizing before item with
  | nil => simp [writeItems,itemParts,Text.join]
  | cons next rest ih =>
    have later := ih afterItem next
    rw [itemParts,itemParts,List.map_cons,List.map_cons,joinComma,writeItems,plain.item]
    rw [itemParts,List.map_cons] at later
    rw [← later]
    simp

theorem itemPartsMeaning (before : Text) (items : List Json) :
    (itemParts spacing afterItem before items).mapM Prod.snd = some items := by
  induction items generalizing before with
  | nil => rfl
  | cons item rest ih =>
    rw [itemParts,mapMCons,ih]
    rfl

theorem itemPartsSpelt {dialect : Dialect} {n : Nat} {before : Text} {items : List Json}
    (first : Blank before) (blank : Blank afterItem)
    (spelt : ∀ item ∈ items, Spelt dialect n (write spacing item) (some item)) :
    ∀ part ∈ itemParts spacing afterItem before items, Spelt dialect n part.1 part.2 := by
  induction items generalizing before with
  | nil => simp [itemParts]
  | cons item rest ih =>
    intro part member
    rcases List.mem_cons.mp member with rfl | later
    · exact .spaced first (spelt item List.mem_cons_self)
    · exact ih blank (fun item member => spelt item (.tail _ member)) part later

def memberPart (spacing : Spacing) (afterKey before : Text) (member : Text × Json) : Labelled :=
  ⟨before,member.1.flatMap escapeOne,some member.1,[],afterKey ++ write spacing member.2,
    some member.2⟩

def memberParts (spacing : Spacing) (afterItem afterKey : Text) :
    Text → List (Text × Json) → List Labelled
  | _, [] => []
  | before, member :: rest =>
    memberPart spacing afterKey before member ::
      memberParts spacing afterItem afterKey afterItem rest

theorem memberPartText (plain : spacing.Plain afterItem afterKey) (before : Text)
    (member : Text × Json) : (memberPart spacing afterKey before member).text =
      before ++ (quote member.1 ++ spacing.key ++ write spacing member.2) := by
  have quoted : quote member.1 = enclosed '"' (member.1.flatMap escapeOne) '"' := rfl
  rw [quoted,plain.key]
  simp [memberPart,Labelled.text]

theorem memberPartsJoin (plain : spacing.Plain afterItem afterKey) (before : Text)
    (member : Text × Json) (rest : List (Text × Json)) :
    before ++ writeMembers spacing (member :: rest) = Text.join ","
      ((memberParts spacing afterItem afterKey before (member :: rest)).map Labelled.text) := by
  induction rest generalizing before member with
  | nil =>
    simp only [memberParts,List.map_cons,List.map_nil,Text.join,memberPartText plain,writeMembers]
  | cons next rest ih =>
    have later := ih afterItem next
    rw [memberParts,memberParts,List.map_cons,List.map_cons,joinComma,memberPartText plain,
      writeMembers,plain.item]
    rw [memberParts,List.map_cons] at later
    rw [← later]
    simp

theorem memberPartsMeaning (before : Text) (members : List (Text × Json)) :
    (memberParts spacing afterItem afterKey before members).mapM Labelled.entry = some members := by
  induction members generalizing before with
  | nil => rfl
  | cons member rest ih =>
    rw [memberParts,mapMCons,ih]
    rfl

theorem memberPartsSound (dialect : Dialect) {before : Text} (members : List (Text × Json))
    (first : Blank before) (blank : Blank afterItem) :
    ∀ part ∈ memberParts spacing afterItem afterKey before members, part.Sound dialect := by
  induction members generalizing before with
  | nil => simp [memberParts]
  | cons member rest ih =>
    intro part stands
    rcases List.mem_cons.mp stands with rfl | later
    · exact ⟨first,quoteKey dialect.loneSurrogates member.1,blankNil⟩
    · exact ih blank part later

theorem memberPartsSpelt {dialect : Dialect} {n : Nat} {before : Text}
    {members : List (Text × Json)} (blank : Blank afterKey)
    (spelt : ∀ member ∈ members, Spelt dialect n (write spacing member.2) (some member.2)) :
    ∀ part ∈ memberParts spacing afterItem afterKey before members,
      Spelt dialect n part.value part.meaning := by
  induction members generalizing before with
  | nil => simp [memberParts]
  | cons member rest ih =>
    intro part stands
    rcases List.mem_cons.mp stands with rfl | later
    · exact .spaced blank (spelt member List.mem_cons_self)
    · exact ih (fun member stands => spelt member (.tail _ stands)) part later

end Parts

section Pairs

theorem insertNew {key : Text} {value : Json} {members : List (Text × Json)}
    (new : key ∉ members.map (·.1)) : insert key value members = members ++ [(key,value)] := by
  induction members with
  | nil => rfl
  | cons member rest ih =>
    obtain ⟨other,later⟩ : key ≠ member.1 ∧ key ∉ rest.map (·.1) := by simpa using new
    rw [insert,if_neg (by simpa using Ne.symm other),ih later,List.cons_append]

theorem insertAll {before members : List (Text × Json)}
    (apart : ((before ++ members).map (·.1)).Nodup) :
    members.foldl (fun found (key,value) => insert key value found) before = before ++ members := by
  induction members generalizing before with
  | nil => simp
  | cons member rest ih =>
    have joined : before ++ member :: rest = before ++ [member] ++ rest := by simp
    have new : member.1 ∉ before.map (·.1) := by
      rw [List.map_append,List.nodup_append] at apart
      intro stands
      exact apart.2.2 _ stands _ (List.mem_cons_self) rfl
    rw [List.foldl_cons,joined,← ih (joined ▸ apart),← insertNew new]

theorem ofPairsApart {members : List (Text × Json)} (apart : (members.map (·.1)).Nodup) :
    ofPairs members = .object members := by
  have inserted : members.foldl _ [] = [] ++ members := insertAll apart
  rw [ofPairs,inserted,List.nil_append]

end Pairs

theorem writtenSpelt {spacing : Spacing} {afterItem afterKey : Text}
    (plain : spacing.Plain afterItem afterKey) (dialect : Dialect) {json : Json}
    (lasting : Lasting json) {n : Nat} (deep : levels json ≤ n) :
    Spelt dialect n (write spacing json) (some json) := by
  induction lasting generalizing n with
  | null => exact .named (.head _)
  | bool b =>
    cases b with
    | false => exact .named (.tail _ (.tail _ (.head _)))
    | true => exact .named (.tail _ (.head _))
  | int short => exact integerSpelt dialect n short
  | text t => exact quoteSpelt dialect n t
  | @array items lasting ih =>
    cases items with
    | nil => exact .noItems blankNil
    | cons item rest =>
      rw [levels] at deep
      obtain ⟨n,rfl⟩ : ∃ less, n = less + 1 := ⟨n - 1,by omega⟩
      have filled : itemParts spacing afterItem [] (item :: rest) ≠ [] := List.cons_ne_nil _ _
      have spelt := Spelt.items filled (itemPartsSpelt blankNil plain.itemBlank fun item member =>
        ih item member ((itemLevelsMost member).trans (Nat.le_of_succ_le_succ deep)))
      rw [itemPartsMeaning,← itemPartsJoin plain [] item rest] at spelt
      exact spelt
  | @object members apart lasting ih =>
    cases members with
    | nil => exact .noMembers blankNil
    | cons member rest =>
      rw [levels] at deep
      obtain ⟨n,rfl⟩ : ∃ less, n = less + 1 := ⟨n - 1,by omega⟩
      have filled : memberParts spacing afterItem afterKey [] (member :: rest) ≠ [] :=
        List.cons_ne_nil _ _
      have sound : ∀ part ∈ memberParts spacing afterItem afterKey [] (member :: rest),
          part.Sound dialect := memberPartsSound dialect _ blankNil plain.itemBlank
      have spelt := Spelt.members filled sound (memberPartsSpelt plain.keyBlank fun member stands =>
        ih member stands ((memberLevelsMost stands).trans (Nat.le_of_succ_le_succ deep)))
      rw [memberPartsMeaning,← memberPartsJoin plain [] member rest,Option.map_some,
        ofPairsApart apart] at spelt
      exact spelt

theorem readWritten {spacing : Spacing} {afterItem afterKey : Text}
    (plain : spacing.Plain afterItem afterKey) {dialect : Dialect} {json : Json}
    (lasting : Lasting json) (allowed : ∀ depth ∈ dialect.depth, levels json ≤ depth) :
    read? dialect (write spacing json) = some json :=
  readSpelt (writtenSpelt plain dialect lasting (Nat.le_refl _)) allowed

end BotGateway.Json
