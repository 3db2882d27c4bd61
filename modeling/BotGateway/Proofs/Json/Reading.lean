import BotGateway.Proofs.Json.Spelling
import Mathlib.Data.List.TakeWhile

/-! Spellings are read as what they mean, whatever follows them, so long as it could not belong to
them. The reading of a part of a document is the reading of that part alone. -/
namespace BotGateway.Json

def Closes (t : Text) : Prop :=
  ∀ c ∈ t.head?, isSpace c = true ∨ c = ',' ∨ c = ']' ∨ c = '}'

theorem closesNil : Closes [] := by simp [Closes]

theorem closesCons {c : CodePoint} {t : Text} :
    Closes (c :: t) ↔ isSpace c = true ∨ c = ',' ∨ c = ']' ∨ c = '}' := by
  simp [Closes]

theorem closesBlank {blank rest : Text} (blanks : Blank blank) (closes : Closes rest) :
    Closes (blank ++ rest) := by
  cases blank with
  | nil => exact closes
  | cons c blank => exact closesCons.mpr (.inl (blanks c List.mem_cons_self))

theorem closesNumber {t : Text} (closes : Closes t) : ∀ c ∈ t.head?,
    Class.isAsciiDigit c = false ∧ c ≠ '.' ∧ c ≠ 'e' ∧ c ≠ 'E' := by
  intro c first
  rcases closes c first with space | rfl | rfl | rfl
  · simp only [isSpace,Bool.or_eq_true,beq_iff_eq] at space
    rcases space with ((rfl | rfl) | rfl) | rfl <;> decide
  all_goals decide

section Skipping

theorem skipBlank {blank : Text} (blanks : Blank blank) (rest : Text) :
    skip (blank ++ rest) = skip rest := by
  rw [skip,skip,List.dropWhile_append_of_pos blanks]

theorem skipCons {c : CodePoint} (solid : isSpace c = false) (rest : Text) :
    skip (c :: rest) = c :: rest := by
  rw [skip,List.dropWhile_cons_of_neg (by simp [solid])]

end Skipping

section Numbers
variable {t rest : Text}

theorem plainDigitsRead (digits : ∀ c ∈ t, Class.isAsciiDigit c = true)
    (stops : ∀ c ∈ rest.head?, Class.isAsciiDigit c = false) :
    plainDigits (t ++ rest) = (figures t,rest) := by
  have none : rest.takeWhile Class.isAsciiDigit = [] ∧ rest.dropWhile Class.isAsciiDigit = rest := by
    cases rest with
    | nil => exact ⟨rfl,rfl⟩
    | cons c rest =>
      have stop := stops c rfl
      exact ⟨List.takeWhile_cons_of_neg (by simp [stop]),List.dropWhile_cons_of_neg (by simp [stop])⟩
  rw [plainDigits,List.takeWhile_append_of_pos digits,List.dropWhile_append_of_pos digits,
    none.1,none.2,List.append_nil]
  rfl

theorem figuresNil (digits : Digits t) : figures t ≠ [] := by
  simpa [figures] using digits.1

theorem wholeDigitsRead (whole : Whole t) (stops : ∀ c ∈ rest.head?, Class.isAsciiDigit c = false) :
    wholeDigits (t ++ rest) = some (figures t,rest) := by
  cases whole with
  | zero => rfl
  | @counted c t digits first =>
    have read := plainDigitsRead digits.2 stops
    have some := figuresNil digits
    rw [List.cons_append] at read ⊢
    simp only [wholeDigits,beq_iff_eq,first,if_false,read]
    cases h : figures (c :: t) with
    | nil => exact absurd h some
    | cons => rfl

theorem fractionDigitsRead {fs : List Nat} (fraction : Fraction t fs)
    (stops : ∀ c ∈ rest.head?, Class.isAsciiDigit c = false ∧ c ≠ '.') :
    fractionDigits (t ++ rest) = some (fs,rest) := by
  cases fraction with
  | none =>
    cases rest with
    | nil => rfl
    | cons c rest =>
      have stop := (stops c rfl).2
      simp [fractionDigits,stop]
  | @given t digits =>
    have read := plainDigitsRead digits.2 fun c first => (stops c first).1
    have some := figuresNil digits
    rw [List.cons_append,fractionDigits,if_neg (by simp),read]
    cases h : figures t with
    | nil => exact absurd h some
    | cons => rfl

theorem afterSignDigits (digits : Digits t) (rest : Text) :
    Numeral.afterSign (t ++ rest) = (false,t ++ rest) := by
  obtain ⟨some,all⟩ := digits
  cases t with
  | nil => exact absurd rfl some
  | cons c t =>
    have digit := all c List.mem_cons_self
    have sign : c ≠ '-' ∧ c ≠ '+' := by
      constructor
      all_goals
        rintro rfl
        revert digit
        decide
    simp [Numeral.afterSign,sign]

theorem exponentDigits {mark : CodePoint} {body : Text} {negative : Bool}
    (marks : mark = 'e' ∨ mark = 'E') (digits : Digits t)
    (stops : ∀ c ∈ rest.head?, Class.isAsciiDigit c = false)
    (sign : Numeral.afterSign body = (negative,t ++ rest)) :
    exponentPart (mark :: body) =
      some (some (Numeral.signed negative (Numeral.value 10 (figures t))),rest) := by
  have marked : (mark != 'e' && mark != 'E') = false := by
    rcases marks with rfl | rfl <;> decide
  have filled := figuresNil digits
  rw [exponentPart,marked,sign]
  simp only [Bool.false_eq_true,if_false,plainDigitsRead digits.2 stops]

theorem exponentPartRead {power : Option Int} (exponent : Exponent t power)
    (stops : ∀ c ∈ rest.head?, Class.isAsciiDigit c = false ∧ c ≠ 'e' ∧ c ≠ 'E') :
    exponentPart (t ++ rest) = some (power,rest) := by
  have digitless : ∀ c ∈ rest.head?, Class.isAsciiDigit c = false := fun c first => (stops c first).1
  cases exponent with
  | none =>
    cases rest with
    | nil => rfl
    | cons c rest =>
      have stop := stops c rfl
      simp [exponentPart,stop]
  | plain marks digits => exact exponentDigits marks digits digitless (afterSignDigits digits rest)
  | signed negative marks digits =>
    refine exponentDigits marks digits digitless ?_
    cases negative <;> rfl

theorem fractionStops {fs : List Nat} (fraction : Fraction t fs)
    (stops : ∀ c ∈ rest.head?, Class.isAsciiDigit c = false) :
    ∀ c ∈ (t ++ rest).head?, Class.isAsciiDigit c = false := by
  cases fraction with
  | none => exact stops
  | given =>
    rintro _ ⟨⟩
    decide

theorem exponentStops {power : Option Int} (exponent : Exponent t power)
    (stops : ∀ c ∈ rest.head?, Class.isAsciiDigit c = false ∧ c ≠ '.') :
    ∀ c ∈ (t ++ rest).head?, Class.isAsciiDigit c = false ∧ c ≠ '.' := by
  cases exponent with
  | none => exact stops
  | plain marks | signed _ marks =>
    rintro _ ⟨⟩
    rcases marks with rfl | rfl <;> decide

theorem numberRead (negative : Bool) {whole fraction exponent : Text} {fs : List Nat}
    {power : Option Int} (w : Whole whole) (f : Fraction fraction fs) (e : Exponent exponent power)
    (closes : Closes rest) :
    number negative (whole ++ (fraction ++ exponent) ++ rest) =
      (counted negative (figures whole) fs power).map (·,rest) := by
  have stops := closesNumber closes
  have afterExponent : exponentPart (exponent ++ rest) = some (power,rest) :=
    exponentPartRead e fun c first => ⟨(stops c first).1,(stops c first).2.2⟩
  have pointless : ∀ c ∈ (exponent ++ rest).head?, Class.isAsciiDigit c = false ∧ c ≠ '.' :=
    exponentStops e fun c first => ⟨(stops c first).1,(stops c first).2.1⟩
  have afterFraction := fractionDigitsRead f pointless
  have afterWhole := wholeDigitsRead w (fractionStops f fun c first => (pointless c first).1)
  rw [List.append_assoc,List.append_assoc,number,afterWhole]
  simp only [Option.bind_eq_bind,Option.bind_some,afterFraction,afterExponent,counted]
  split
  · split <;> rfl
  · rfl

end Numbers

section Scalars

theorem namesKnown {name : Text} {json : Json} (known : (name,json) ∈ names) :
    (name = "null" ∧ json = .null) ∨ (name = "true" ∧ json = .bool true) ∨
    (name = "false" ∧ json = .bool false) ∨ (name = "NaN" ∧ json = .float .nan) ∨
    (name = "Infinity" ∧ json = .float (.infinite false)) ∨
    (name = "-Infinity" ∧ json = .float (.infinite true)) := by
  simpa only [names,List.mem_cons,List.not_mem_nil,or_false,Prod.mk.injEq] using known

theorem scalarNamed {name : Text} {json : Json} (known : (name,json) ∈ names) (rest : Text) :
    scalar (name ++ rest) = some (json,rest) := by
  rcases namesKnown known with
    ⟨rfl,rfl⟩ | ⟨rfl,rfl⟩ | ⟨rfl,rfl⟩ | ⟨rfl,rfl⟩ | ⟨rfl,rfl⟩ | ⟨rfl,rfl⟩
  all_goals rfl

theorem differs {c x : CodePoint} (digit : Class.isAsciiDigit c = true)
    (other : Class.isAsciiDigit x = false) : (x == c) = false := by
  rw [beq_eq_false_iff_ne]
  rintro rfl
  simp [digit] at other

theorem unprefixed {x c : CodePoint} (other : (x == c) = false) (xs t : Text) :
    ¬(x :: xs).isPrefixOf (c :: t) = true := by
  simp [List.isPrefixOf,other]

theorem unnamed {c : CodePoint} (digit : Class.isAsciiDigit c = true) (t : Text) :
    names.find? (fun (name,_) => name.isPrefixOf (c :: t)) = none ∧
    names.find? (fun (name,_) => name.isPrefixOf ('-' :: c :: t)) = none := by
  constructor
  all_goals
    rw [List.find?_eq_none]
    rintro ⟨name,json⟩ known
    rcases namesKnown known with
      ⟨rfl,rfl⟩ | ⟨rfl,rfl⟩ | ⟨rfl,rfl⟩ | ⟨rfl,rfl⟩ | ⟨rfl,rfl⟩ | ⟨rfl,rfl⟩
  iterate 6 exact unprefixed (differs digit (by decide)) _ _
  -- behind a sign the only name goes on with a letter
  iterate 5 exact unprefixed (by decide) _ _
  exact unprefixed (differs digit (by decide : Class.isAsciiDigit 'I' = false)) _ _

theorem wholeHead {t : Text} (whole : Whole t) :
    ∃ c rest, t = c :: rest ∧ Class.isAsciiDigit c = true := by
  cases whole with
  | zero => exact ⟨_,_,rfl,by decide⟩
  | counted digits => exact ⟨_,_,rfl,digits.2 _ List.mem_cons_self⟩

theorem scalarNumber {t rest : Text} {meaning : Option Json} (number : Number t meaning)
    (closes : Closes rest) : scalar (t ++ rest) = meaning.map (·,rest) := by
  cases number with
  | plain w f e =>
    have read := numberRead false w f e closes
    obtain ⟨c,others,rfl,digit⟩ := wholeHead w
    rw [List.cons_append,List.cons_append] at read ⊢
    have signless : (c == '-') = false := by
      rw [beq_eq_false_iff_ne]
      rintro rfl
      revert digit
      decide
    rw [scalar,(unnamed digit _).1]
    simp only [signless,Bool.false_eq_true,if_false]
    exact read
  | negative w f e =>
    have read := numberRead true w f e closes
    obtain ⟨c,others,rfl,digit⟩ := wholeHead w
    rw [List.cons_append,List.cons_append] at read
    rw [List.cons_append,List.cons_append,List.cons_append,scalar,(unnamed digit _).2]
    exact read

end Scalars

section Strings

theorem piecesRead {t : Text} {ps : List Piece} (chars : Chars t ps) (rest : Text) :
    pieces (t ++ (('"' : CodePoint) :: rest)) = some (ps,rest) := by
  have backslash : ('\\' : CodePoint) ≠ '"' := by decide
  induction chars with
  | nil =>
    rw [List.nil_append,pieces.eq_def]
    exact if_pos (by decide)
  | plain visible quote escape chars ih =>
    rw [List.cons_append,pieces.eq_def]
    simp only [beq_iff_eq,quote,if_false,Nat.not_lt.mpr visible,bne_iff_ne,ne_eq,escape,
      not_false_eq_true,if_true,ih,Option.map_some]
  | simple escape chars ih =>
    rw [List.cons_append,List.cons_append,pieces.eq_def]
    simp only [beq_iff_eq,backslash,if_false,bne_self_eq_false,Bool.false_eq_true,escape,ih,
      Option.map_some]
    exact if_neg (by decide)
  | numbered first second third fourth chars ih =>
    have none : simpleEscape 'u' = none := by decide
    simp only [List.cons_append]
    rw [pieces.eq_def]
    simp only [beq_iff_eq,backslash,if_false,bne_self_eq_false,Bool.false_eq_true,none,first,
      second,third,fourth,ih,Option.map_some]
    exact if_neg (by decide)

theorem stringRead {dialect : Dialect} {t : Text} {ps : List Piece} (chars : Chars t ps)
    (rest : Text) : string dialect (t ++ (('"' : CodePoint) :: rest)) =
      (joinPieces dialect.loneSurrogates ps).map (·,rest) := by
  rw [string,piecesRead chars rest]
  simp only [Option.bind_eq_bind,Option.bind_some]
  cases joinPieces dialect.loneSurrogates ps <;> rfl

end Strings

section Containers
variable {dialect : Dialect} {fuel depth : Nat} {rest tail : Text}

theorem valueText : value dialect (fuel + 1) depth (('"' : CodePoint) :: rest) =
    (string dialect rest).map fun (t,tail) => (.text t,tail) := by
  rw [value.eq_def]
  exact if_pos (by decide)

theorem valueScalar {c : CodePoint} (quote : c ≠ '"') (array : c ≠ '[') (object : c ≠ '{') :
    value dialect (fuel + 1) depth (c :: rest) = scalar (c :: rest) := by
  rw [value.eq_def]
  simp only [beq_iff_eq,quote,array,object,if_false]

theorem valueArray : value dialect (fuel + 1) depth (('[' : CodePoint) :: rest) =
    match skip rest, depth with
    | [], _ => none
    | b :: tail, 0 => if b == ']' then some (.array [],tail) else none
    | b :: tail, depth + 1 =>
      if b == ']' then some (.array [],tail)
      else (items dialect fuel depth (b :: tail)).map fun (xs,tail) => (.array xs,tail) := by
  rw [value.eq_def]
  rfl

theorem valueObject : value dialect (fuel + 1) depth (('{' : CodePoint) :: rest) =
    match skip rest, depth with
    | [], _ => none
    | b :: tail, 0 => if b == '}' then some (.object [],tail) else none
    | b :: tail, depth + 1 =>
      if b == '}' then some (.object [],tail)
      else (members dialect fuel depth (b :: tail)).map fun (ms,tail) => (ofPairs ms,tail) := by
  rw [value.eq_def]
  rfl

theorem valueNoItems (closed : skip rest = (']' : CodePoint) :: tail) :
    value dialect (fuel + 1) depth (('[' : CodePoint) :: rest) = some (.array [],tail) := by
  rw [valueArray,closed]
  cases depth <;> exact if_pos (by decide)

theorem valueItems {c : CodePoint} (opened : skip rest = c :: tail) (other : c ≠ ']') :
    value dialect (fuel + 1) (depth + 1) (('[' : CodePoint) :: rest) =
      (items dialect fuel depth (c :: tail)).map fun (xs,tail) => (.array xs,tail) := by
  rw [valueArray,opened]
  exact if_neg (by simpa using other)

theorem valueNoMembers (closed : skip rest = ('}' : CodePoint) :: tail) :
    value dialect (fuel + 1) depth (('{' : CodePoint) :: rest) = some (.object [],tail) := by
  rw [valueObject,closed]
  cases depth <;> exact if_pos (by decide)

theorem valueMembers {c : CodePoint} (opened : skip rest = c :: tail) (other : c ≠ '}') :
    value dialect (fuel + 1) (depth + 1) (('{' : CodePoint) :: rest) =
      (members dialect fuel depth (c :: tail)).map fun (ms,tail) => (ofPairs ms,tail) := by
  rw [valueObject,opened]
  exact if_neg (by simpa using other)

section Steps
variable {t after more : Text} {meaning : Option Json}

theorem itemsLast (read : value dialect fuel depth t = meaning.map (·,after))
    (closed : skip after = (']' : CodePoint) :: rest) :
    items dialect (fuel + 1) depth t = meaning.map fun x => ([x],rest) := by
  rw [items,read]
  cases meaning with
  | none => rfl
  | some json =>
    simp only [Option.map_some,Option.bind_eq_bind,Option.bind_some,closed]
    exact if_pos (by decide)

theorem itemsNext (read : value dialect fuel depth t = meaning.map (·,after))
    (going : skip after = (',' : CodePoint) :: more) :
    items dialect (fuel + 1) depth t = meaning.bind fun x =>
      (items dialect fuel depth (skip more)).map fun (xs,rest) => (x :: xs,rest) := by
  rw [items,read]
  cases meaning with
  | none => rfl
  | some json =>
    simp only [Option.map_some,Option.bind_eq_bind,Option.bind_some,going]
    rw [if_neg (by decide),if_pos (by decide)]
    cases items dialect fuel depth (skip more) <;> rfl

variable {part : Labelled} {body : Text}

theorem membersLast (key : string dialect t = part.name.map (·,after))
    (colon : skip after = (':' : CodePoint) :: body)
    (read : value dialect fuel depth (skip body) = part.meaning.map (·,more))
    (closed : skip more = ('}' : CodePoint) :: rest) :
    members dialect (fuel + 1) depth (('"' : CodePoint) :: t) =
      part.entry.map fun entry => ([entry],rest) := by
  rw [members,if_neg (by decide),key,Labelled.entry]
  cases part.name with
  | none => rfl
  | some name =>
    simp only [Option.map_some,Option.bind_eq_bind,Option.bind_some,colon]
    rw [if_neg (by decide),read]
    cases part.meaning with
    | none => rfl
    | some json =>
      simp only [Option.map_some,Option.bind_some,closed]
      exact if_pos (by decide)

theorem membersNext {following : Text} (key : string dialect t = part.name.map (·,after))
    (colon : skip after = (':' : CodePoint) :: body)
    (read : value dialect fuel depth (skip body) = part.meaning.map (·,more))
    (going : skip more = (',' : CodePoint) :: following) :
    members dialect (fuel + 1) depth (('"' : CodePoint) :: t) = part.entry.bind fun entry =>
      (members dialect fuel depth (skip following)).map fun (xs,rest) => (entry :: xs,rest) := by
  rw [members,if_neg (by decide),key,Labelled.entry]
  cases part.name with
  | none => rfl
  | some name =>
    simp only [Option.map_some,Option.bind_eq_bind,Option.bind_some,colon]
    rw [if_neg (by decide),read]
    cases part.meaning with
    | none => rfl
    | some json =>
      simp only [Option.map_some,Option.bind_some,going]
      rw [if_neg (by decide),if_pos (by decide)]
      cases members dialect fuel depth (skip following) <;> rfl

end Steps

end Containers

theorem mapMCons {α β : Type} (f : α → Option β) (a : α) (as : List α) :
    (a :: as).mapM f = (f a).bind fun b => (as.mapM f).map (b :: ·) := by
  rw [List.mapM_cons]
  cases f a with
  | none => rfl
  | some b => cases as.mapM f <;> rfl

theorem joinComma (t next : Text) (others : List Text) : Text.join "," (t :: next :: others) =
    t ++ ((',' : CodePoint) :: Text.join "," (next :: others)) := by
  rw [Text.join,List.append_assoc]
  rfl

theorem joinHead (t : Text) (others : List Text) :
    ∃ more, Text.join "," (t :: others) = t ++ more := by
  cases others with
  | nil => exact ⟨[],(List.append_nil t).symm⟩
  | cons next others => exact ⟨_,joinComma t next others⟩

/-- What reading comes to at the start of a text: it does not start as a container ends, and with
steps and depth enough its meaning is found, up to blanks. -/
structure Reads (dialect : Dialect) (n : Nat) (t : Text) (meaning : Option Json) : Prop where
  starts : ∀ rest, ∃ c tail, skip (t ++ rest) = c :: tail ∧ c ≠ ']' ∧ c ≠ '}'
  ends : ∀ {fuel depth rest}, 2 * t.length ≤ fuel → n ≤ depth → Closes rest →
    ∃ after, Blank after ∧
      value dialect fuel depth (skip (t ++ rest)) = meaning.map (·,after ++ rest)

namespace Reads
variable {dialect : Dialect} {n : Nat}

theorem solid {c : CodePoint} {t : Text} {meaning : Option Json} (head : isSpace c = false)
    (array : c ≠ ']') (object : c ≠ '}')
    (ends : ∀ {fuel depth rest}, 2 * t.length < fuel → n ≤ depth → Closes rest →
      value dialect (fuel + 1) depth (c :: (t ++ rest)) = meaning.map (·,rest)) :
    Reads dialect n (c :: t) meaning := by
  refine ⟨fun rest => ⟨c,t ++ rest,skipCons head _,array,object⟩,?_⟩
  intro fuel depth rest enough deep closes
  rw [List.length_cons] at enough
  obtain ⟨fuel,rfl⟩ : ∃ more, fuel = more + 1 := ⟨fuel - 1,by omega⟩
  refine ⟨[],by simp [Blank],?_⟩
  rw [List.cons_append,skipCons head]
  exact ends (by omega) deep closes

theorem scalar {c : CodePoint} {t : Text} {meaning : Option Json}
    (head : isSpace c = false ∧ c ≠ ']' ∧ c ≠ '}') (opens : c ≠ '"' ∧ c ≠ '[' ∧ c ≠ '{')
    (read : ∀ {rest}, Closes rest → Json.scalar (c :: t ++ rest) = meaning.map (·,rest)) :
    Reads dialect n (c :: t) meaning := by
  refine solid head.1 head.2.1 head.2.2 fun _ _ closes => ?_
  rw [valueScalar opens.1 opens.2.1 opens.2.2]
  exact read closes

theorem named {name : Text} {json : Json} (known : (name,json) ∈ names) :
    Reads dialect n name (some json) := by
  have read (rest : Text) := scalarNamed known rest
  rcases namesKnown known with
    ⟨rfl,rfl⟩ | ⟨rfl,rfl⟩ | ⟨rfl,rfl⟩ | ⟨rfl,rfl⟩ | ⟨rfl,rfl⟩ | ⟨rfl,rfl⟩
  all_goals exact scalar (by decide) (by decide) fun _ => read _

theorem number {t : Text} {meaning : Option Json} (number : Number t meaning) :
    Reads dialect n t meaning := by
  have read {rest} (closes : Closes rest) := scalarNumber number closes
  cases number with
  | plain w f e =>
    obtain ⟨c,others,rfl,digit⟩ := wholeHead w
    have other {x : CodePoint} (mark : Class.isAsciiDigit x = false) : c ≠ x :=
      (beq_eq_false_iff_ne.mp (differs digit mark)).symm
    have blankless : isSpace c = false := by
      simp only [isSpace,Bool.or_eq_false_iff,beq_eq_false_iff_ne]
      exact ⟨⟨⟨other (by decide),other (by decide)⟩,other (by decide)⟩,other (by decide)⟩
    exact scalar ⟨blankless,other (by decide),other (by decide)⟩
      ⟨other (by decide),other (by decide),other (by decide)⟩ read
  | negative w f e => exact scalar (by decide) (by decide) read

theorem closed {first last : CodePoint} {inner : Text} {meaning : Option Json}
    (head : isSpace first = false ∧ first ≠ ']' ∧ first ≠ '}')
    (ends : ∀ fuel depth rest, 2 * inner.length < fuel → n ≤ depth →
      value dialect (fuel + 1) depth (first :: (inner ++ (last :: rest))) = meaning.map (·,rest)) :
    Reads dialect n (enclosed first inner last) meaning := by
  refine solid head.1 head.2.1 head.2.2 fun enough deep _ => ?_
  rw [List.length_append] at enough
  rw [List.append_assoc]
  exact ends _ _ _ (by omega) deep

theorem text {t : Text} {ps : List Piece} (chars : Chars t ps) :
    Reads dialect n (enclosed '"' t '"') ((joinPieces dialect.loneSurrogates ps).map .text) := by
  refine closed (by decide) fun fuel depth rest _ _ => ?_
  rw [valueText,stringRead chars rest,Option.map_map,Option.map_map]
  rfl

theorem noItems {t : Text} (blank : Blank t) :
    Reads dialect n (enclosed '[' t ']') (some (.array [])) := by
  refine closed (by decide) fun fuel depth rest _ _ => ?_
  rw [valueNoItems ((skipBlank blank _).trans (skipCons (by decide) rest))]
  rfl

theorem noMembers {t : Text} (blank : Blank t) :
    Reads dialect n (enclosed '{' t '}') (some (.object [])) := by
  refine closed (by decide) fun fuel depth rest _ _ => ?_
  rw [valueNoMembers ((skipBlank blank _).trans (skipCons (by decide) rest))]
  rfl

theorem itemsEnd {parts : List (Text × Option Json)} (filled : parts ≠ [])
    (reads : ∀ part ∈ parts, Reads dialect n part.1 part.2) {fuel depth : Nat} {rest : Text}
    (enough : 2 * (Text.join "," (parts.map (·.1))).length < fuel) (deep : n ≤ depth) :
    Json.items dialect fuel depth
        (skip (Text.join "," (parts.map (·.1)) ++ ((']' : CodePoint) :: rest))) =
      (parts.mapM Prod.snd).map (·,rest) := by
  obtain ⟨fuel,rfl⟩ : ∃ more, fuel = more + 1 := ⟨fuel - 1,by omega⟩
  induction parts generalizing fuel with
  | nil => exact absurd rfl filled
  | cons part parts ih =>
    have first := reads part List.mem_cons_self
    cases parts with
    | nil =>
      simp only [List.map_cons,List.map_nil,Text.join] at enough ⊢
      have closes : Closes ((']' : CodePoint) :: rest) := closesCons.mpr (.inr (.inr (.inl rfl)))
      obtain ⟨after,blanks,read⟩ := first.ends (by omega : 2 * part.1.length ≤ fuel) deep closes
      rw [itemsLast read (skipBlank blanks _)]
      cases h : part.2 <;> simp [h]
    | cons next parts =>
      have later := ih (List.cons_ne_nil _ _) fun p member => reads p (.tail _ member)
      rw [List.map_cons,List.map_cons,joinComma] at enough ⊢
      rw [List.map_cons] at later
      generalize Text.join "," (next.1 :: parts.map (·.1)) = others at later enough ⊢
      rw [List.length_append,List.length_cons] at enough
      obtain ⟨less,rfl⟩ : ∃ less, fuel = less + 1 := ⟨fuel - 1,by omega⟩
      have closes : Closes ((',' : CodePoint) :: (others ++ ((']' : CodePoint) :: rest))) :=
        closesCons.mpr (.inr (.inl rfl))
      obtain ⟨after,blanks,read⟩ := first.ends (by omega : 2 * part.1.length ≤ less + 1) deep closes
      rw [List.append_assoc,List.cons_append,itemsNext read (skipBlank blanks _),
        later less (by omega),mapMCons Prod.snd part (next :: parts),Option.map_bind]
      simp only [Function.comp_def,Option.map_map]

theorem labelled {part : Labelled} (sound : part.Sound dialect)
    (reads : Reads dialect n part.value part.meaning) {fuel depth : Nat}
    (enough : 2 * part.text.length ≤ fuel) (deep : n ≤ depth) {more : Text}
    (closes : Closes more) :
    ∃ t middle body after, skip (part.text ++ more) = ('"' : CodePoint) :: t ∧
      string dialect t = part.name.map (·,middle) ∧ skip middle = (':' : CodePoint) :: body ∧
      value dialect fuel depth (skip body) = part.meaning.map (·,after) ∧ skip after = skip more := by
  obtain ⟨ps,chars,named⟩ := sound.key
  have inner : 2 * part.value.length ≤ fuel := by
    simp only [Labelled.text,List.length_append,List.length_cons] at enough
    omega
  obtain ⟨blank,blanks,read⟩ := reads.ends inner deep closes
  let middle := part.between ++ ((':' : CodePoint) :: (part.value ++ more))
  have opened : part.text ++ more = part.before ++
      (('"' : CodePoint) :: (part.key ++ (('"' : CodePoint) :: middle))) := by
    simp [Labelled.text,enclosed,middle]
  have colon : skip middle = (':' : CodePoint) :: (part.value ++ more) := by
    rw [skipBlank sound.between,skipCons (by decide)]
  refine ⟨_,middle,_,_,?_,named ▸ stringRead chars middle,colon,read,skipBlank blanks more⟩
  rw [opened,skipBlank sound.before,skipCons (by decide)]

theorem membersEnd {parts : List Labelled} (filled : parts ≠ [])
    (sound : ∀ part ∈ parts, part.Sound dialect)
    (reads : ∀ part ∈ parts, Reads dialect n part.value part.meaning) {fuel depth : Nat}
    {rest : Text} (enough : 2 * (Text.join "," (parts.map Labelled.text)).length < fuel)
    (deep : n ≤ depth) :
    Json.members dialect fuel depth
        (skip (Text.join "," (parts.map Labelled.text) ++ (('}' : CodePoint) :: rest))) =
      (parts.mapM Labelled.entry).map (·,rest) := by
  obtain ⟨fuel,rfl⟩ : ∃ more, fuel = more + 1 := ⟨fuel - 1,by omega⟩
  induction parts generalizing fuel with
  | nil => exact absurd rfl filled
  | cons part parts ih =>
    have whole := sound part List.mem_cons_self
    have first := reads part List.mem_cons_self
    cases parts with
    | nil =>
      simp only [List.map_cons,List.map_nil,Text.join] at enough ⊢
      have closes : Closes (('}' : CodePoint) :: rest) := closesCons.mpr (.inr (.inr (.inr rfl)))
      obtain ⟨t,middle,body,after,opened,key,colon,read,closed⟩ :=
        labelled whole first (by omega : 2 * part.text.length ≤ fuel) deep closes
      rw [opened,membersLast key colon read (closed.trans (skipCons (by decide) rest))]
      cases h : part.entry <;> simp [h]
    | cons next parts =>
      have later := ih (List.cons_ne_nil _ _) (fun p member => sound p (.tail _ member))
        fun p member => reads p (.tail _ member)
      rw [List.map_cons,List.map_cons,joinComma] at enough ⊢
      rw [List.map_cons] at later
      generalize Text.join "," (next.text :: parts.map Labelled.text) = others at later enough ⊢
      rw [List.length_append,List.length_cons] at enough
      obtain ⟨less,rfl⟩ : ∃ less, fuel = less + 1 := ⟨fuel - 1,by omega⟩
      have closes : Closes ((',' : CodePoint) :: (others ++ (('}' : CodePoint) :: rest))) :=
        closesCons.mpr (.inr (.inl rfl))
      obtain ⟨t,middle,body,after,opened,key,colon,read,going⟩ :=
        labelled whole first (by omega : 2 * part.text.length ≤ less + 1) deep closes
      rw [List.append_assoc,List.cons_append,opened,
        membersNext key colon read (going.trans (skipCons (by decide) _)),later less (by omega),
        mapMCons Labelled.entry part (next :: parts),Option.map_bind]
      simp only [Function.comp_def,Option.map_map]

theorem itemsStart {parts : List (Text × Option Json)} (filled : parts ≠ [])
    (reads : ∀ part ∈ parts, Reads dialect n part.1 part.2) (rest : Text) :
    ∃ c tail, skip (Text.join "," (parts.map (·.1)) ++ rest) = c :: tail ∧ c ≠ ']' := by
  obtain ⟨part,parts,rfl⟩ := List.exists_cons_of_ne_nil filled
  obtain ⟨more,joined⟩ := joinHead part.1 (parts.map (·.1))
  obtain ⟨c,tail,opened,other,_⟩ := (reads part List.mem_cons_self).starts (more ++ rest)
  refine ⟨c,tail,?_,other⟩
  rw [List.map_cons,joined,List.append_assoc,opened]

theorem items {parts : List (Text × Option Json)} (filled : parts ≠ [])
    (reads : ∀ part ∈ parts, Reads dialect n part.1 part.2) :
    Reads dialect (n + 1) (enclosed '[' (Text.join "," (parts.map (·.1))) ']')
      ((parts.mapM Prod.snd).map .array) := by
  refine closed (by decide) fun fuel depth rest enough deep => ?_
  obtain ⟨depth,rfl⟩ : ∃ less, depth = less + 1 := ⟨depth - 1,by omega⟩
  obtain ⟨c,tail,opened,other⟩ := itemsStart filled reads ((']' : CodePoint) :: rest)
  rw [valueItems opened other,← opened,itemsEnd filled reads enough (Nat.le_of_succ_le_succ deep),
    Option.map_map,Option.map_map]
  rfl

theorem membersStart {parts : List Labelled} (filled : parts ≠ [])
    (sound : ∀ part ∈ parts, part.Sound dialect) (rest : Text) :
    ∃ tail, skip (Text.join "," (parts.map Labelled.text) ++ rest) = ('"' : CodePoint) :: tail := by
  obtain ⟨part,parts,rfl⟩ := List.exists_cons_of_ne_nil filled
  obtain ⟨more,joined⟩ := joinHead part.text (parts.map Labelled.text)
  have blank := (sound part List.mem_cons_self).before
  rw [List.map_cons,joined,Labelled.text,List.append_assoc,List.append_assoc,skipBlank blank]
  exact ⟨_,skipCons (by decide) _⟩

theorem members {parts : List Labelled} (filled : parts ≠ [])
    (sound : ∀ part ∈ parts, part.Sound dialect)
    (reads : ∀ part ∈ parts, Reads dialect n part.value part.meaning) :
    Reads dialect (n + 1) (enclosed '{' (Text.join "," (parts.map Labelled.text)) '}')
      ((parts.mapM Labelled.entry).map ofPairs) := by
  refine closed (by decide) fun fuel depth rest enough deep => ?_
  obtain ⟨depth,rfl⟩ : ∃ less, depth = less + 1 := ⟨depth - 1,by omega⟩
  obtain ⟨tail,opened⟩ := membersStart filled sound (('}' : CodePoint) :: rest)
  rw [valueMembers opened (by decide),← opened,
    membersEnd filled sound reads enough (Nat.le_of_succ_le_succ deep),Option.map_map,Option.map_map]
  rfl

theorem padded {before t after : Text} {meaning : Option Json} (first : Blank before)
    (reads : Reads dialect n t meaning) (last : Blank after) :
    Reads dialect n (before ++ (t ++ after)) meaning := by
  constructor
  · intro rest
    rw [List.append_assoc,List.append_assoc,skipBlank first]
    exact reads.starts (after ++ rest)
  · intro fuel depth rest enough deep closes
    rw [List.append_assoc,List.append_assoc,skipBlank first]
    have inner : 2 * t.length ≤ fuel := by
      simp only [List.length_append] at enough
      omega
    obtain ⟨blank,blanks,read⟩ := reads.ends inner deep (closesBlank last closes)
    refine ⟨blank ++ after,?_,by rw [read,List.append_assoc]⟩
    intro c member
    exact (List.mem_append.mp member).elim (blanks c) (last c)

theorem ofSpelt {t : Text} {meaning : Option Json} (spelt : Spelt dialect n t meaning) :
    Reads dialect n t meaning := by
  induction spelt with
  | named known => exact named known
  | number written => exact number written
  | text chars => exact text chars
  | noItems blank => exact noItems blank
  | items filled _ ih => exact items filled ih
  | noMembers blank => exact noMembers blank
  | members filled sound _ ih => exact members filled sound ih
  | padded first _ last ih => exact padded first ih last

end Reads

theorem joinLength {α : Type} (text : α → Text) {part : α} {parts : List α}
    (member : part ∈ parts) : (text part).length ≤ (Text.join "," (parts.map text)).length := by
  induction parts with
  | nil => cases member
  | cons first parts ih =>
    cases parts with
    | nil => simp [Text.join,List.mem_singleton.mp member]
    | cons next parts =>
      rw [List.map_cons,List.map_cons,joinComma,List.length_append,List.length_cons]
      rcases List.mem_cons.mp member with rfl | later
      · omega
      · have := ih later
        rw [List.map_cons] at this
        omega

theorem Spelt.shallow {dialect : Dialect} {n m : Nat} {t : Text} {meaning : Option Json}
    (spelt : Spelt dialect n t meaning) (enough : t.length ≤ m) : Spelt dialect m t meaning := by
  induction spelt generalizing m with
  | named known => exact .named known
  | number written => exact .number written
  | text chars => exact .text chars
  | noItems blank => exact .noItems blank
  | items filled _ ih =>
    rw [enclosed,List.length_cons,List.length_append] at enough
    obtain ⟨m,rfl⟩ : ∃ less, m = less + 1 := ⟨m - 1,by omega⟩
    refine .items filled fun part member => ih part member ?_
    have := joinLength (·.1) member
    omega
  | noMembers blank => exact .noMembers blank
  | members filled sound _ ih =>
    rw [enclosed,List.length_cons,List.length_append] at enough
    obtain ⟨m,rfl⟩ : ∃ less, m = less + 1 := ⟨m - 1,by omega⟩
    refine .members filled sound fun part member => ih part member ?_
    have whole := joinLength Labelled.text member
    have inner : part.value.length ≤ part.text.length := by
      simp only [Labelled.text,List.length_append,List.length_cons]
      omega
    omega
  | padded first _ last ih =>
    rw [List.length_append,List.length_append] at enough
    exact .padded first (ih (by omega)) last

theorem readSpelt {dialect : Dialect} {n : Nat} {t : Text} {meaning : Option Json}
    (spelt : Spelt dialect n t meaning) (allowed : ∀ depth ∈ dialect.depth, n ≤ depth) :
    read? dialect t = meaning := by
  have deep : ∃ m, Spelt dialect m t meaning ∧ m ≤ dialect.depth.getD (2 * t.length + 1) := by
    cases h : dialect.depth with
    | none => exact ⟨t.length,spelt.shallow (Nat.le_refl _),by simp; omega⟩
    | some depth => exact ⟨n,spelt,allowed depth h⟩
  obtain ⟨m,spelt,deep⟩ := deep
  obtain ⟨after,blank,read⟩ := (Reads.ofSpelt spelt).ends (Nat.le_succ _) deep closesNil
  rw [List.append_nil,List.append_nil] at read
  rw [read?]
  simp only [read]
  cases meaning with
  | none => rfl
  | some json =>
    have rest : skip after = [] := List.dropWhile_eq_nil_iff.mpr blank
    simp [rest]

end BotGateway.Json
