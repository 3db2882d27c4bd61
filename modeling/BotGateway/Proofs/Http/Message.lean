import BotGateway.Proofs.Http.Transcript
import BotGateway.Proofs.Number.Reading
import BotGateway.Proofs.Text.Trimming

/-! Chunked messages as they ought to be written: sizes in hexadecimal digits, data of just that size,
trailer lines up to the first empty one. Every such message is read back, to its last byte and no
further. The reader takes more than these: sizes with a sign, a mark or underscores, and the tail of
an overlong line for an empty one. -/
namespace BotGateway.Http

inductive LineEnd where
  | crlf
  | lf

def LineEnd.mark : LineEnd → Bytes
  | .crlf => [13]
  | .lf => []

def LineEnd.bytes (ending : LineEnd) : Bytes := ending.mark ++ [lineFeed]

def hexDigit? (b : UInt8) : Option Nat := Class.hexValue (CodePoint.ofNat b.toNat)

structure SizeLine where
  before : Bytes
  digits : Bytes
  after : Bytes
  extension : Option Bytes
  ending : LineEnd
  counted : digits ≠ []
  hexadecimal : ∀ d ∈ digits, (hexDigit? d).isSome
  blank : ∀ b ∈ before ++ after, isMarginByte b = true ∧ b ≠ lineFeed
  whole : ∀ e ∈ extension, lineFeed ∉ e

namespace SizeLine

def size (line : SizeLine) : Nat :=
  Numeral.value 16 (line.digits.map fun d => (hexDigit? d).getD 0)

def appendix (line : SizeLine) : Bytes := (line.extension.map (semicolon :: ·)).getD []

def unended (line : SizeLine) : Bytes :=
  line.before ++ line.digits ++ line.after ++ line.appendix ++ line.ending.mark

def bytes (line : SizeLine) : Bytes :=
  line.before ++ line.digits ++ line.after ++ line.appendix ++ line.ending.bytes

end SizeLine

structure Chunk where
  line : SizeLine
  data : Bytes
  ending : LineEnd
  filled : data ≠ []
  counted : line.size = data.length

def Chunk.bytes (chunk : Chunk) : Bytes := chunk.line.bytes ++ chunk.data ++ chunk.ending.bytes

structure TrailerLine where
  content : Bytes
  ending : LineEnd
  whole : lineFeed ∉ content
  filled : isEmptyLine (content ++ ending.bytes) = false

def TrailerLine.bytes (line : TrailerLine) : Bytes := line.content ++ line.ending.bytes

structure Message where
  chunks : List Chunk
  last : SizeLine
  zero : last.size = 0
  trailer : List TrailerLine
  ending : LineEnd

namespace Message

def trailerBytes (message : Message) : Bytes := message.trailer.flatMap TrailerLine.bytes

def bytes (message : Message) : Bytes :=
  message.chunks.flatMap Chunk.bytes ++ message.last.bytes ++ message.trailerBytes ++
    message.ending.bytes

def body (message : Message) : Bytes := message.chunks.flatMap Chunk.data

def before (chunk : Chunk) (message : Message) : Message :=
  {message with chunks := chunk :: message.chunks}

@[simp] theorem bytesBefore (chunk : Chunk) (message : Message) :
    (message.before chunk).bytes = chunk.bytes ++ message.bytes := by
  simp [before,bytes,trailerBytes]

@[simp] theorem bodyBefore (chunk : Chunk) (message : Message) :
    (message.before chunk).body = chunk.data ++ message.body := by
  simp [before,body]

@[elab_as_elim]
theorem byChunks {motive : Message → Prop}
    (none : ∀ message, message.chunks = [] → motive message)
    (next : ∀ chunk message, motive message → motive (message.before chunk))
    (message : Message) : motive message := by
  obtain ⟨chunks,last,zero,trailer,ending⟩ := message
  induction chunks with
  | nil => exact none _ rfl
  | cons chunk chunks ih => exact next chunk ⟨chunks,last,zero,trailer,ending⟩ ih

/-- No line is longer than the limit, and no chunk than a byte string can be. -/
structure Short (message : Message) : Prop where
  sizes : ∀ chunk ∈ message.chunks, chunk.line.bytes.length ≤ maxLine
  last : message.last.bytes.length ≤ maxLine
  trailer : ∀ line ∈ message.trailer, line.bytes.length ≤ maxLine
  data : ∀ chunk ∈ message.chunks, chunk.data.length < readBound

end Message

section Sizes
variable {line content : Bytes} {size : Nat} {b : UInt8}

theorem marginLatin (b : UInt8) :
    Numeral.isAsciiMargin (CodePoint.ofNat b.toNat) = isMarginByte b := by
  have small := b.toNat_lt
  have value : (CodePoint.ofNat b.toNat).val = b.toNat := Nat.mod_eq_of_lt (by omega)
  have blank : (CodePoint.ofNat b.toNat == (' ' : CodePoint)) = (b == 0x20) := by
    rw [Bool.eq_iff_iff,beq_iff_eq,beq_iff_eq,← Fin.val_inj,value,← UInt8.toNat_inj]
    rfl
  simp only [Numeral.isAsciiMargin,isMarginByte,blank,value,UInt8.le_iff_toNat_le]
  rfl

theorem hexNoMargin (hex : (hexDigit? b).isSome) : isMarginByte b = false := by
  rw [← marginLatin]
  exact (Numeral.hexPlain hex).1

theorem hexNoSemicolon (hex : (hexDigit? b).isSome) : b ≠ semicolon := by
  rintro rfl
  revert hex
  decide

theorem hexNoLineFeed (hex : (hexDigit? b).isSome) : b ≠ lineFeed := by
  rintro rfl
  revert hex
  decide

theorem marginNoSemicolon (margin : isMarginByte b = true) : b ≠ semicolon := by
  rintro rfl
  revert margin
  decide

theorem fieldUnended (content : Bytes) : sizeField (content ++ [lineFeed]) = sizeField content := by
  rw [sizeField,sizeField,List.takeWhile_append]
  split
  · rename_i whole
    rw [List.takeWhile_cons_of_pos (by decide),List.takeWhile_nil,Text.trimLast (by decide),
      (List.takeWhile_prefix _).eq_of_length whole]
  · rfl

theorem SizeLine.bytesUnended (line : SizeLine) : line.bytes = line.unended ++ [lineFeed] := by
  simp [bytes,unended,LineEnd.bytes]

theorem LineEnd.markAmong (ending : LineEnd) : ∀ b ∈ ending.mark, b = 13 := by
  cases ending <;> simp [mark]

theorem SizeLine.unendedWhole (line : SizeLine) : lineFeed ∉ line.unended := by
  intro member
  simp only [unended,List.mem_append] at member
  obtain (((ahead | digit) | behind) | extension) | mark := member
  · exact (line.blank _ (List.mem_append_left _ ahead)).2 rfl
  · exact hexNoLineFeed (line.hexadecimal _ digit) rfl
  · exact (line.blank _ (List.mem_append_right _ behind)).2 rfl
  · cases given : line.extension with
    | none => simp [appendix,given] at extension
    | some e =>
      rw [appendix,given] at extension
      obtain same | inside := List.mem_cons.mp extension
      · cases same
      · exact line.whole e given inside
  · cases line.ending.markAmong _ mark

theorem SizeLine.fieldDigits (line : SizeLine) : sizeField line.bytes = line.digits := by
  have ahead : ∀ b ∈ line.before, isMarginByte b = true := fun b member =>
    (line.blank b (List.mem_append_left _ member)).1
  have behind : ∀ b ∈ line.after, isMarginByte b = true := fun b member =>
    (line.blank b (List.mem_append_right _ member)).1
  have digits : ∀ d ∈ line.digits, isMarginByte d = false := fun d member =>
    hexNoMargin (line.hexadecimal d member)
  have unparted : ∀ b ∈ line.before ++ line.digits ++ line.after, (b != semicolon) = true := by
    intro b member
    simp only [List.mem_append] at member
    rw [bne_iff_ne]
    obtain (blank | digit) | blank := member
    · exact marginNoSemicolon (ahead b blank)
    · exact hexNoSemicolon (line.hexadecimal b digit)
    · exact marginNoSemicolon (behind b blank)
  rw [bytesUnended,fieldUnended,unended,sizeField,List.append_assoc,
    List.takeWhile_append_of_pos unparted]
  cases given : line.extension with
  | none =>
    have mark : ∀ b ∈ line.ending.mark, isMarginByte b = true ∧ (b != semicolon) = true :=
      fun b member => line.ending.markAmong b member ▸ ⟨rfl,rfl⟩
    have all : (line.appendix ++ line.ending.mark).takeWhile (· != semicolon) = line.ending.mark := by
      rw [appendix,given]
      exact List.takeWhile_eq_self_iff.mpr fun b member => (mark b member).2
    rw [all,List.append_assoc]
    refine Text.trimBetween line.counted ahead digits fun b member => ?_
    obtain blank | marked := List.mem_append.mp member
    · exact behind b blank
    · exact (mark b marked).1
  | some e =>
    have none : (line.appendix ++ line.ending.mark).takeWhile (· != semicolon) = [] := by
      rw [appendix,given]
      exact List.takeWhile_cons_of_neg (by decide)
    rw [none,List.append_nil]
    exact Text.trimBetween line.counted ahead digits behind

theorem SizeLine.sizeRead (line : SizeLine) : readSize line.bytes = .ok line.size := by
  have latin : Numeral.readHex (Quoted.latin line.digits) = .ok (line.size : Int) := by
    have filled : Quoted.latin line.digits ≠ [] := by simpa [Quoted.latin] using line.counted
    have hexadecimal : ∀ c ∈ Quoted.latin line.digits, (Class.hexValue c).isSome :=
      List.forall_mem_map.mpr line.hexadecimal
    rw [Numeral.readHexDigits filled hexadecimal]
    simp [Quoted.latin,SizeLine.size,hexDigit?,Function.comp_def]
  have natural : ¬(line.size : Int) < 0 := by omega
  simp only [readSize,chunkSize,fieldDigits,latin,bind,Except.bind,natural,if_false]
  rfl

def PlainSize (line : Bytes) : Prop := ∀ d ∈ sizeField line, (hexDigit? d).isSome

theorem SizeLine.plain (line : SizeLine) : PlainSize line.bytes := by
  rw [PlainSize,fieldDigits]
  exact line.hexadecimal

theorem fieldCounted (read : readSize line = .ok size) : sizeField line ≠ [] := by
  intro none
  rw [readSize,chunkSize,none] at read
  cases read

theorem SizeTaken.unended (taken : SizeTaken line size) :
    ∃ content, line = content ++ [lineFeed] ∧ lineFeed ∉ content := by
  obtain ⟨piece,ended,_⟩ := taken
  cases piece with
  | line plain _ => exact ⟨_,rfl,plain⟩
  | cut plain _ =>
    rw [notEnded plain] at ended
    cases ended

theorem SizeLine.sameSize {spelling : SizeLine} (bytes : spelling.bytes = line)
    (taken : SizeTaken line size) : spelling.size = size := by
  subst bytes
  exact Except.ok.inj (spelling.sizeRead.symm.trans taken.read)

theorem extensionSplit (content : Bytes) : ∃ extension : Option Bytes,
    content = content.takeWhile (· != semicolon) ++ (extension.map (semicolon :: ·)).getD [] := by
  have split := List.takeWhile_append_dropWhile (p := (· != semicolon)) (l := content)
  cases left : content.dropWhile (· != semicolon) with
  | nil =>
    rw [left] at split
    exact ⟨none,split.symm⟩
  | cons b e =>
    have mark : b = semicolon := by
      have stopped := List.head?_dropWhile_not (· != semicolon) content
      simpa [left] using stopped
    rw [left,mark] at split
    exact ⟨some e,split.symm⟩

theorem SizeTaken.spelt (taken : SizeTaken line size) (plain : PlainSize line) :
    ∃ spelling : SizeLine, spelling.bytes = line ∧ spelling.size = size := by
  obtain ⟨content,rfl,whole⟩ := taken.unended
  have counted := fieldCounted taken.read
  rw [PlainSize] at plain
  rw [fieldUnended] at plain counted
  obtain ⟨before,after,field,blank⟩ := Text.trimSplit isMarginByte (content.takeWhile (· != semicolon))
  obtain ⟨extension,split⟩ := extensionSplit content
  rw [field] at split
  have within : ∀ b ∈ before ++ after, b ∈ content := by
    intro b member
    rw [split]
    simp only [List.mem_append] at member ⊢
    obtain ahead | behind := member
    · exact .inl (.inl (.inl ahead))
    · exact .inl (.inr behind)
  have margins : ∀ b ∈ before ++ after, isMarginByte b = true ∧ b ≠ lineFeed := fun b member =>
    ⟨blank b member,fun same => whole (same ▸ within b member)⟩
  have apart : ∀ e ∈ extension, lineFeed ∉ e := by
    rintro e rfl inside
    rw [split] at whole
    exact whole (List.mem_append_right _ (.tail _ inside))
  have bytes : before ++ sizeField content ++ after ++ (extension.map (semicolon :: ·)).getD [] ++
      LineEnd.lf.bytes = content ++ [lineFeed] := congrArg (· ++ [lineFeed]) split.symm
  exact ⟨⟨before,sizeField content,after,extension,.lf,counted,plain,margins,apart⟩,bytes,
    SizeLine.sameSize bytes taken⟩

theorem sameLine {a b x y : Bytes} (whole : lineFeed ∉ a) (other : lineFeed ∉ b)
    (same : a ++ lineFeed :: x = b ++ lineFeed :: y) : a = b ∧ x = y := by
  have bounded : a.length < a.length + b.length + 1 ∧ b.length < a.length + b.length + 1 := by omega
  have read := readWhole whole bounded.1 x
  rw [same,readWhole other bounded.2 y] at read
  have lines : b ++ [lineFeed] = a ++ [lineFeed] := congrArg Prod.fst read
  exact ⟨(List.append_cancel_right lines).symm,(congrArg Prod.snd read).symm⟩

theorem SizeLine.sameTaken {line : SizeLine} {taken x y : Bytes} {size : Nat}
    (sized : SizeTaken taken size) (same : line.bytes ++ x = taken ++ y) :
    line.bytes = taken ∧ line.size = size ∧ x = y := by
  obtain ⟨content,rfl,whole⟩ := sized.unended
  rw [line.bytesUnended,List.append_assoc,List.append_assoc] at same
  obtain ⟨rfl,rest⟩ := sameLine line.unendedWhole whole same
  rw [← line.bytesUnended] at sized ⊢
  exact ⟨rfl,SizeLine.sameSize rfl sized,rest⟩

end Sizes

section Endings

theorem LineEnd.empty (ending : LineEnd) : isEmptyLine ending.bytes = true := by
  cases ending <;> rfl

theorem emptyEnding {line : Bytes} (empty : isEmptyLine line = true) :
    ∃ ending : LineEnd, ending.bytes = line := by
  obtain rfl | rfl := emptyEither empty
  · exact ⟨.crlf,rfl⟩
  · exact ⟨.lf,rfl⟩

theorem LineEnd.same {ending : LineEnd} {mark x y : Bytes} (empty : isEmptyLine mark = true)
    (same : ending.bytes ++ x = mark ++ y) : ending.bytes = mark ∧ x = y := by
  have read := readPiece (emptyPiece ending.empty) x
  rw [same,readPiece (emptyPiece empty) y] at read
  exact ⟨(congrArg Prod.fst read).symm,(congrArg Prod.snd read).symm⟩

theorem longFilled {line : Bytes} (long : 2 < line.length) : isEmptyLine line = false := by
  rw [← Bool.not_eq_true]
  intro empty
  obtain rfl | rfl := emptyEither empty <;> simp [ascii] at long

theorem trailerJoined {pending : Bytes} {trailer : List TrailerPiece} (whole : lineFeed ∉ pending)
    (long : pending = [] ∨ 2 < pending.length)
    (ended : ∀ b ∈ (pending ++ trailer.flatMap TrailerPiece.bytes).getLast?, b = lineFeed) :
    ∃ lines : List TrailerLine,
      lines.flatMap TrailerLine.bytes = pending ++ trailer.flatMap TrailerPiece.bytes := by
  induction trailer generalizing pending with
  | nil =>
    have none : pending = [] := by
      refine List.getLast?_eq_none_iff.mp (Option.eq_none_iff_forall_not_mem.mpr fun b last => ?_)
      rw [List.flatMap_nil,List.append_nil] at ended
      exact whole (ended b last ▸ List.mem_of_getLast? last)
    exact ⟨[],by simp [none]⟩
  | cons piece trailer ih =>
    obtain ⟨bytes,taken,filled⟩ := piece
    rw [List.flatMap_cons,← List.append_assoc] at ended ⊢
    cases taken with
    | @line content plain short =>
      have lastWhole : lineFeed ∉ pending ++ content := by simp [whole,plain]
      have lineFilled : isEmptyLine (pending ++ content ++ LineEnd.lf.bytes) = false := by
        obtain rfl | long := long
        · exact filled
        · exact longFilled (by simp only [List.length_append]; omega)
      have ended : ∀ b ∈ ([] ++ trailer.flatMap TrailerPiece.bytes).getLast?, b = lineFeed := by
        intro b last
        refine ended b ?_
        rw [List.nil_append] at last
        rw [List.getLast?_append,last]
        rfl
      obtain ⟨lines,same⟩ := ih List.not_mem_nil (.inl rfl) ended
      refine ⟨⟨pending ++ content,.lf,lastWhole,lineFilled⟩ :: lines,?_⟩
      rw [List.flatMap_cons,same]
      simp [TrailerLine.bytes,LineEnd.bytes,LineEnd.mark]
    | cut plain full =>
      -- an overlong line goes on in the next piece
      refine ih (by simp [whole,plain]) (.inr ?_) ended
      rw [List.length_append,full,maxLine]
      omega

theorem linesEnd (trailer : List TrailerLine) {front : Bytes} (ended : endsLine front = true) :
    endsLine (front ++ trailer.flatMap TrailerLine.bytes) = true := by
  induction trailer generalizing front with
  | nil => simpa using ended
  | cons line trailer ih =>
    rw [List.flatMap_cons,← List.append_assoc]
    refine ih ?_
    simp [endsLine,TrailerLine.bytes,LineEnd.bytes]

theorem SizeLine.ended (line : SizeLine) : endsLine line.bytes = true := by
  simp [endsLine,bytesUnended]

theorem Transcript.notTorn (transcript : Transcript) (front : Bytes) :
    transcript.last ++ transcript.trailerBytes ≠ front ++ [lineFeed,13] := by
  intro same
  obtain none | ⟨pieces,piece,split⟩ := transcript.trailer.eq_nil_or_concat
  · obtain ⟨content,line,_⟩ := transcript.zero.unended
    rw [trailerBytes,none,List.flatMap_nil,List.append_nil,line] at same
    have last := congrArg List.getLast? same
    simp [lineFeed] at last
  · rw [trailerBytes,split,List.concat_eq_append,List.flatMap_append,List.flatMap_singleton,
      ← List.append_assoc] at same
    obtain ⟨bytes,taken,_⟩ := piece
    cases taken with
    | line =>
      have last := congrArg List.getLast? same
      simp [lineFeed] at last
    | cut plain full =>
      have ahead : [lineFeed,13] <:+ bytes := by
        refine List.suffix_of_suffix_length_le ⟨front,same.symm⟩ (List.suffix_append _ bytes) ?_
        rw [full,maxLine]
        decide
      exact plain (ahead.subset (by simp))

theorem endingApart (transcript : Transcript) {lines : Bytes} {ending : LineEnd}
    (ended : endsLine lines = true)
    (same : lines ++ ending.bytes =
      transcript.last ++ transcript.trailerBytes ++ transcript.ending) :
    endsLine (transcript.last ++ transcript.trailerBytes) = true := by
  have last : lines.getLast? = some lineFeed := eq_of_beq ended
  obtain ⟨front,rfl⟩ := List.getLast?_eq_some_iff.mp last
  obtain ⟨other,taken⟩ := emptyEnding transcript.empty
  rw [← taken,LineEnd.bytes,LineEnd.bytes,← List.append_assoc,← List.append_assoc] at same
  have marked := List.append_cancel_right same
  cases ending <;> cases other <;> simp only [LineEnd.mark,List.append_nil] at marked
  case crlf.crlf => rwa [← List.append_cancel_right marked]
  case lf.lf => rwa [← marked]
  case crlf.lf => exact absurd marked.symm (by simpa using transcript.notTorn front)
  case lf.crlf =>
    have torn := congrArg List.getLast? marked
    simp [lineFeed] at torn

end Endings

variable {transcript : Transcript} {message : Message}

structure Transcript.Plain (transcript : Transcript) : Prop where
  sizes : ∀ chunk ∈ transcript.chunks, PlainSize chunk.line
  last : PlainSize transcript.last
  ending : endsLine (transcript.last ++ transcript.trailerBytes) = true

theorem Message.plain (same : message.bytes = transcript.bytes) : transcript.Plain := by
  induction transcript using Transcript.byChunks generalizing message with
  | none transcript none =>
    rw [Transcript.bytes,none,List.flatMap_nil,List.nil_append] at same
    induction message using Message.byChunks with
    | none message empty =>
      rw [Message.bytes,empty,List.flatMap_nil,List.nil_append] at same
      have ended := linesEnd message.trailer message.last.ended
      have apart := endingApart transcript ended same
      rw [List.append_assoc,List.append_assoc] at same
      obtain ⟨line,_,_⟩ := SizeLine.sameTaken transcript.zero same
      exact ⟨by simp [none],line ▸ message.last.plain,apart⟩
    | next chunk message _ =>
      rw [Message.bytesBefore,Chunk.bytes,List.append_assoc,List.append_assoc,
        List.append_assoc] at same
      obtain ⟨_,size,_⟩ := SizeLine.sameTaken transcript.zero same
      exact absurd (List.length_eq_zero_iff.mp (chunk.counted.symm.trans size)) chunk.filled
  | next taken transcript ih =>
    rw [Transcript.bytesBefore,TakenChunk.bytes,List.append_assoc,List.append_assoc] at same
    induction message using Message.byChunks with
    | none message none =>
      rw [Message.bytes,none,List.flatMap_nil,List.nil_append,List.append_assoc] at same
      obtain ⟨_,size,_⟩ := SizeLine.sameTaken taken.sized same
      exact absurd (List.length_eq_zero_iff.mp (size.symm.trans message.zero)) taken.filled
    | next chunk message _ =>
      rw [Message.bytesBefore,Chunk.bytes,List.append_assoc,List.append_assoc] at same
      obtain ⟨line,size,same⟩ := SizeLine.sameTaken taken.sized same
      obtain ⟨_,same⟩ := List.append_inj same (chunk.counted.symm.trans size)
      obtain ⟨_,same⟩ := LineEnd.same taken.empty same
      obtain ⟨sizes,last,ending⟩ := ih same
      exact ⟨List.forall_mem_cons.mpr ⟨line ▸ chunk.line.plain,sizes⟩,last,ending⟩

theorem Transcript.Plain.written (plain : transcript.Plain) :
    ∃ message : Message, message.bytes = transcript.bytes ∧ message.body = transcript.body := by
  induction transcript using Transcript.byChunks with
  | none transcript none =>
    obtain ⟨last,line,size⟩ := transcript.zero.spelt plain.last
    obtain ⟨ending,mark⟩ := emptyEnding transcript.empty
    have ended : ∀ b ∈ ([] ++ transcript.trailer.flatMap TrailerPiece.bytes).getLast?,
        b = lineFeed := by
      intro b final
      have whole := eq_of_beq plain.ending
      rw [List.nil_append] at final
      rw [Transcript.trailerBytes,List.getLast?_append,final] at whole
      exact Option.some.inj whole
    obtain ⟨lines,same⟩ := trailerJoined List.not_mem_nil (.inl rfl) ended
    refine ⟨⟨[],last,size,lines,ending⟩,?_,?_⟩
    · simp [Message.bytes,Message.trailerBytes,Transcript.bytes,Transcript.trailerBytes,none,line,
        mark,same]
    · simp [Message.body,Transcript.body,none]
  | next taken transcript ih =>
    obtain ⟨sized,sizes⟩ := List.forall_mem_cons.mp plain.sizes
    obtain ⟨message,bytes,body⟩ := ih ⟨sizes,plain.last,plain.ending⟩
    obtain ⟨spelling,line,size⟩ := taken.sized.spelt sized
    obtain ⟨ending,mark⟩ := emptyEnding taken.empty
    refine ⟨message.before ⟨spelling,taken.data,ending,taken.filled,size⟩,?_,?_⟩
    · simp [Chunk.bytes,TakenChunk.bytes,bytes,line,mark]
    · simp [body]

theorem SizeLine.taken (line : SizeLine) (short : line.bytes.length ≤ maxLine) :
    SizeTaken line.bytes line.size := by
  refine ⟨?_,line.ended,line.sizeRead⟩
  rw [line.bytesUnended,List.length_append] at short
  rw [line.bytesUnended]
  exact .line line.unendedWhole short

theorem trailerPieces (trailer : List TrailerLine)
    (short : ∀ line ∈ trailer, line.bytes.length ≤ maxLine) :
    ∃ pieces : List TrailerPiece,
      pieces.flatMap TrailerPiece.bytes = trailer.flatMap TrailerLine.bytes := by
  induction trailer with
  | nil => exact ⟨[],rfl⟩
  | cons line trailer ih =>
    obtain ⟨fits,others⟩ := List.forall_mem_cons.mp short
    obtain ⟨pieces,same⟩ := ih others
    have whole : lineFeed ∉ line.content ++ line.ending.mark := by
      rw [List.mem_append,not_or]
      exact ⟨line.whole,fun member => by cases line.ending.markAmong _ member⟩
    have piece : Piece line.bytes := by
      rw [TrailerLine.bytes,LineEnd.bytes,← List.append_assoc] at fits ⊢
      rw [List.length_append] at fits
      exact .line whole fits
    exact ⟨⟨line.bytes,piece,line.filled⟩ :: pieces,by simp [same]⟩

theorem Message.Short.taken (short : message.Short) :
    ∃ transcript : Transcript, transcript.bytes = message.bytes ∧ transcript.body = message.body := by
  induction message using Message.byChunks with
  | none message none =>
    obtain ⟨pieces,same⟩ := trailerPieces message.trailer short.trailer
    have zero : SizeTaken message.last.bytes 0 := message.zero ▸ message.last.taken short.last
    refine ⟨⟨[],message.last.bytes,zero,pieces,message.ending.bytes,message.ending.empty⟩,?_,?_⟩
    · simp [Message.bytes,Message.trailerBytes,Transcript.bytes,Transcript.trailerBytes,none,same]
    · simp [Message.body,Transcript.body,none]
  | next chunk message ih =>
    obtain ⟨sizes,last,trailer,data⟩ := short
    obtain ⟨fits,sizes⟩ := List.forall_mem_cons.mp sizes
    obtain ⟨indexed,data⟩ := List.forall_mem_cons.mp data
    obtain ⟨transcript,bytes,body⟩ := ih ⟨sizes,last,trailer,data⟩
    have sized : SizeTaken chunk.line.bytes chunk.data.length :=
      chunk.counted ▸ chunk.line.taken fits
    refine ⟨transcript.before ⟨chunk.line.bytes,chunk.data,chunk.ending.bytes,sized,chunk.filled,
      indexed,chunk.ending.empty⟩,?_,?_⟩
    · simp [Chunk.bytes,TakenChunk.bytes,bytes]
    · simp [body]

theorem unexceeded (limit : Option Nat) : exceeds limit 0 = false := by
  cases limit <;> simp [exceeds]

theorem messageRead (message : Message) (short : message.Short) {limit : Option Nat}
    (within : exceeds limit message.body.length = false) (rest : Bytes) :
    readChunked limit (message.bytes ++ rest) = (.ok message.body,rest) ∧
      ∀ n < message.bytes.length, ∃ failure,
        (readChunked limit (message.bytes.take n)).1 = .error failure ∧
          (failure.kind = .connection ∨ failure.kind = .value) := by
  obtain ⟨transcript,bytes,body⟩ := short.taken
  rw [← bytes,← body]
  have enough : exceeds limit (0 + transcript.body.length) = false := by rwa [Nat.zero_add,body]
  exact ⟨transcriptRead transcript enough rest,fun n less => beginningFails transcript enough less⟩

def greetingMessage : Message where
  chunks := [⟨⟨[],ascii "05",[],some (ascii "name=value"),.crlf,by decide,
    List.all_eq_true.mp rfl,by simp,by simp [ascii,lineFeed]⟩,
    ascii "0\r\n\r\n",.lf,by decide,by decide⟩]
  last := ⟨[],ascii "0",[],none,.crlf,by decide,List.all_eq_true.mp rfl,by simp,nofun⟩
  zero := by decide
  trailer := [⟨ascii "X-Trailer: 1",.crlf,by decide,by decide⟩]
  ending := .crlf

theorem greetingShort : greetingMessage.Short :=
  ⟨by decide,by decide,by decide,by decide⟩

theorem greetingRead :
    greetingMessage.bytes =
      ascii "05;name=value\r\n0\r\n\r\n\n0\r\nX-Trailer: 1\r\n\r\n" ∧
    readChunked none (greetingMessage.bytes ++ ascii "GET") =
      (.ok (ascii "0\r\n\r\n"),ascii "GET") ∧
    ∃ failure, (readChunked (some 5) (greetingMessage.bytes.take 21)).1 = .error failure ∧
      (failure.kind = .connection ∨ failure.kind = .value) :=
  ⟨by decide,(messageRead greetingMessage greetingShort rfl _).1,
    (messageRead greetingMessage greetingShort (by decide) []).2 21 (by decide)⟩

/-- What is read of a stream is a message with that body, whatever it is, exactly where every way to
take the beginning of the stream has sizes in digits alone and an empty line of its own. -/
theorem soundExactly (limit : Option Nat) (stream : Bytes) :
    (∀ body rest, readChunked limit stream = (.ok body,rest) →
      ∃ message : Message, stream = message.bytes ++ rest ∧ message.body = body) ↔
    ∀ (transcript : Transcript) (rest : Bytes), stream = transcript.bytes ++ rest →
      exceeds limit transcript.body.length = false → transcript.Plain := by
  constructor
  · rintro sound transcript rest rfl within
    have read := transcriptRead transcript (by rwa [Nat.zero_add]) rest
    obtain ⟨message,same,_⟩ := sound _ _ read
    exact message.plain (List.append_cancel_right same.symm)
  · intro plain body rest read
    obtain ⟨transcript,split,rfl,within⟩ := takenTranscript (unexceeded limit) read
    rw [Nat.zero_add] at within
    obtain ⟨message,bytes,body⟩ := (plain transcript rest split within).written
    exact ⟨message,by rw [split,bytes],body⟩

def signedTranscript : Transcript where
  chunks := [⟨ascii "+5\r\n",ascii "hello",ascii "\r\n",
    ⟨.line (by decide : lineFeed ∉ ascii "+5\r") (by decide),rfl,rfl⟩,by decide,by decide,rfl⟩]
  last := ascii "0\r\n"
  zero := ⟨.line (by decide : lineFeed ∉ ascii "0\r") (by decide),rfl,rfl⟩
  trailer := []
  ending := ascii "\r\n"
  empty := rfl

theorem signedSizeRead :
    readChunked none (ascii "+5\r\nhello\r\n0\r\n\r\n") = (.ok (ascii "hello"),[]) ∧
      ¬∃ message : Message, ascii "+5\r\nhello\r\n0\r\n\r\n" = message.bytes ++ [] ∧
        message.body = ascii "hello" := by
  have bytes : signedTranscript.bytes = ascii "+5\r\nhello\r\n0\r\n\r\n" := rfl
  refine ⟨transcriptRead signedTranscript rfl [],?_⟩
  rintro ⟨message,same,_⟩
  rw [← bytes,List.append_nil] at same
  have field : PlainSize (ascii "+5\r\n") := (message.plain same.symm).sizes _ List.mem_cons_self
  have sign : (hexDigit? 43).isSome := field 43 (by decide)
  revert sign
  decide

end BotGateway.Http
