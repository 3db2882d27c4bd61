import BotGateway.Proofs.Http.Chunked

/-! Chunked bodies line by line, as they are taken of a stream. A body is read exactly where such a
transcript stands at the start of the stream, and no beginning of a transcript is enough for one. -/
namespace BotGateway.Http

inductive Piece : Bytes → Prop where
  | line {content} (plain : lineFeed ∉ content) (short : content.length < maxLine) :
      Piece (content ++ [lineFeed])
  | cut {content} (plain : lineFeed ∉ content) (full : content.length = maxLine) : Piece content

structure SizeTaken (line : Bytes) (size : Nat) : Prop where
  piece : Piece line
  ended : endsLine line = true
  read : readSize line = .ok size

structure TakenChunk where
  line : Bytes
  data : Bytes
  mark : Bytes
  sized : SizeTaken line data.length
  filled : data ≠ []
  indexed : data.length < readBound
  empty : isEmptyLine mark = true

structure TrailerPiece where
  bytes : Bytes
  piece : Piece bytes
  filled : isEmptyLine bytes = false

structure Transcript where
  chunks : List TakenChunk
  last : Bytes
  zero : SizeTaken last 0
  trailer : List TrailerPiece
  ending : Bytes
  empty : isEmptyLine ending = true

def TakenChunk.bytes (chunk : TakenChunk) : Bytes := chunk.line ++ chunk.data ++ chunk.mark

namespace Transcript

def trailerBytes (transcript : Transcript) : Bytes := transcript.trailer.flatMap TrailerPiece.bytes

def bytes (transcript : Transcript) : Bytes :=
  transcript.chunks.flatMap TakenChunk.bytes ++ transcript.last ++ transcript.trailerBytes ++
    transcript.ending

def body (transcript : Transcript) : Bytes := transcript.chunks.flatMap TakenChunk.data

def before (chunk : TakenChunk) (transcript : Transcript) : Transcript :=
  {transcript with chunks := chunk :: transcript.chunks}

@[simp] theorem bytesBefore (chunk : TakenChunk) (transcript : Transcript) :
    (transcript.before chunk).bytes = chunk.bytes ++ transcript.bytes := by
  simp [before,bytes,trailerBytes]

@[simp] theorem bodyBefore (chunk : TakenChunk) (transcript : Transcript) :
    (transcript.before chunk).body = chunk.data ++ transcript.body := by
  simp [before,body]

@[elab_as_elim]
theorem byChunks {motive : Transcript → Prop}
    (none : ∀ transcript, transcript.chunks = [] → motive transcript)
    (next : ∀ chunk transcript, motive transcript → motive (transcript.before chunk))
    (transcript : Transcript) : motive transcript := by
  obtain ⟨chunks,last,zero,trailer,ending,empty⟩ := transcript
  induction chunks with
  | nil => exact none _ rfl
  | cons chunk chunks ih => exact next chunk ⟨chunks,last,zero,trailer,ending,empty⟩ ih

end Transcript

section Lines
variable {bound : Nat} {content piece line stream rest more : Bytes}

theorem readWhole (plain : lineFeed ∉ content) (short : content.length < bound) (rest : Bytes) :
    readLine bound (content ++ lineFeed :: rest) = (content ++ [lineFeed],rest) := by
  induction content generalizing bound with
  | nil =>
    obtain ⟨n,rfl⟩ : ∃ n, bound = n + 1 := ⟨bound - 1,by simp at short; omega⟩
    rw [List.nil_append,readLine,if_pos rfl]
    rfl
  | cons b content ih =>
    obtain ⟨n,rfl⟩ : ∃ n, bound = n + 1 := ⟨bound - 1,by simp at short; omega⟩
    obtain ⟨other,plain⟩ := not_or.mp (mt List.mem_cons.mpr plain)
    rw [List.cons_append,readLine,if_neg (Ne.symm other),ih plain (by simpa using short)]
    rfl

theorem readCut (plain : lineFeed ∉ content) (rest : Bytes) :
    readLine content.length (content ++ rest) = (content,rest) := by
  induction content with
  | nil => cases rest <;> rfl
  | cons b content ih =>
    obtain ⟨other,plain⟩ := not_or.mp (mt List.mem_cons.mpr plain)
    rw [List.length_cons,List.cons_append,readLine,if_neg (Ne.symm other),ih plain]

theorem readPiece (taken : Piece piece) (rest : Bytes) :
    readLine maxLine (piece ++ rest) = (piece,rest) := by
  cases taken with
  | line plain short =>
    rw [List.append_assoc]
    exact readWhole plain short rest
  | cut plain full =>
    rw [← full]
    exact readCut plain rest

theorem readLineTakes (read : readLine bound stream = (line,rest)) :
    (∃ content, line = content ++ [lineFeed] ∧ lineFeed ∉ content ∧ content.length < bound) ∨
      (lineFeed ∉ line ∧ (line.length = bound ∨ rest = [])) := by
  fun_induction readLine bound stream generalizing line rest with
  | case1 =>
    cases read
    exact .inr ⟨nofun,.inl rfl⟩
  | case2 =>
    cases read
    exact .inr ⟨nofun,.inr rfl⟩
  | case3 =>
    cases read
    exact .inl ⟨[],rfl,nofun,by simp⟩
  | case4 bound b stream other inner after same ih =>
    cases read
    obtain ⟨content,rfl,plain,short⟩ | ⟨plain,full⟩ := ih same
    · exact .inl ⟨b :: content,rfl,mt List.mem_cons.mp (not_or.mpr ⟨Ne.symm other,plain⟩),by simpa using short⟩
    · exact .inr ⟨mt List.mem_cons.mp (not_or.mpr ⟨Ne.symm other,plain⟩),by simpa using full⟩

theorem notEnded (plain : lineFeed ∉ line) : endsLine line = false := by
  cases ends : endsLine line with
  | false => rfl
  | true => exact absurd (List.mem_of_getLast? (eq_of_beq ends)) plain

theorem endedPiece (read : readLine maxLine stream = (line,rest)) (ended : endsLine line = true) :
    Piece line := by
  obtain ⟨content,rfl,plain,short⟩ | ⟨plain,_⟩ := readLineTakes read
  · exact .line plain short
  · rw [notEnded plain] at ended
    cases ended

theorem emptyEither (empty : isEmptyLine line = true) :
    line = ascii "\r\n" ∨ line = ascii "\n" := by
  simpa [isEmptyLine] using empty

theorem emptyPiece (empty : isEmptyLine line = true) : Piece line := by
  obtain rfl | rfl := emptyEither empty
  · exact .line (by decide : lineFeed ∉ [13]) (by decide)
  · exact .line (by decide : lineFeed ∉ []) (by decide)

theorem Piece.nonempty (taken : Piece piece) : piece ≠ [] := by
  cases taken with
  | line => simp
  | cut _ full =>
    rintro rfl
    exact absurd full (by decide)

end Lines

variable {limit : Option Nat} {total size : Nat} {stream body rest : Bytes}

theorem skipTrailerLine {line after : Bytes} (read : readLine maxLine stream = (line,after))
    (nonempty : line ≠ []) :
    skipTrailer stream = if isEmptyLine line then (.ok (),after) else skipTrailer after := by
  rw [skipTrailer]
  simp only [read,nonempty,dite_false]

theorem trailerTaken (trailer : List TrailerPiece) {ending : Bytes} (empty : isEmptyLine ending = true)
    (rest : Bytes) :
    skipTrailer (trailer.flatMap TrailerPiece.bytes ++ ending ++ rest) = (.ok (),rest) := by
  induction trailer with
  | nil =>
    have read := readPiece (emptyPiece empty) rest
    rw [List.flatMap_nil,List.nil_append,skipTrailerLine read (emptyPiece empty).nonempty,if_pos empty]
  | cons piece trailer ih =>
    rw [List.flatMap_cons,List.append_assoc,List.append_assoc,
      skipTrailerLine (readPiece piece.piece _) piece.piece.nonempty,if_neg (by simp [piece.filled]),
      ← List.append_assoc]
    exact ih

theorem takenTrailer (skipped : skipTrailer stream = (.ok (),rest)) :
    ∃ (trailer : List TrailerPiece) (ending : Bytes), isEmptyLine ending = true ∧
      stream = trailer.flatMap TrailerPiece.bytes ++ ending ++ rest := by
  fun_induction skipTrailer stream with
  | case1 => cases skipped
  | case2 stream line nonempty empty =>
    cases skipped
    exact ⟨[],_,empty,(readLine_append maxLine stream).symm⟩
  | case3 stream line nonempty filled further ih =>
    obtain ⟨trailer,ending,empty,split⟩ := ih skipped
    have piece : Piece line.1 := by
      obtain ⟨content,same,plain,short⟩ | ⟨plain,full | none⟩ := readLineTakes (Prod.eta line).symm
      · exact same ▸ .line plain short
      · exact .cut plain full
      · -- at the end of the stream there is no empty line any more
        rw [none] at split
        obtain rfl | rfl := emptyEither empty <;> simp [ascii] at split
    refine ⟨⟨line.1,piece,by simpa using filled⟩ :: trailer,ending,empty,?_⟩
    rw [← readLine_append maxLine stream,List.flatMap_cons,List.append_assoc,List.append_assoc,
      ← List.append_assoc _ ending,← split]

theorem readChunkTaken {data mark : Bytes} (indexed : data.length < readBound)
    (empty : isEmptyLine mark = true) (rest : Bytes) :
    readChunk data.length (data ++ (mark ++ rest)) = (.ok data,rest) := by
  simp [readChunk,Nat.not_le.mpr indexed,readPiece (emptyPiece empty),empty]

theorem takenChunk {data : Bytes} (read : readChunk size stream = (.ok data,rest)) :
    ∃ mark, stream = data ++ (mark ++ rest) ∧ data.length = size ∧ size < readBound ∧
      isEmptyLine mark = true := by
  have below : size < readBound := by
    refine Nat.lt_of_not_le fun large => ?_
    rw [readChunk,if_pos large] at read
    cases read
  obtain ⟨marked,mark,split,length,closed,empty⟩ := chunkFilled read
  have whole : mark ++ rest = marked := by
    have same := readLine_append maxLine marked
    rwa [closed] at same
  exact ⟨mark,by rw [split,whole],length,below,empty⟩

theorem exceedsLess (within : exceeds limit total = false) (less : size ≤ total) :
    exceeds limit size = false :=
  exceedsMore (by simp [within]) less

theorem readLast {line after : Bytes} (read : readLine maxLine stream = (line,after))
    (zero : SizeTaken line 0) :
    readChunks limit total stream =
      ((skipTrailer after).1.map fun _ => [],(skipTrailer after).2) := by
  rw [readChunks]
  simp only [read,zero.ended,dite_true,zero.read]

theorem readNext {line after : Bytes} (read : readLine maxLine stream = (line,after))
    (sized : SizeTaken line size) (counted : size ≠ 0)
    (within : exceeds limit (total + size) = false) {data : Bytes}
    (chunk : readChunk size after = (.ok data,rest)) :
    readChunks limit total stream =
      ((readChunks limit (total + size) rest).1.map fun body => data ++ body,
        (readChunks limit (total + size) rest).2) := by
  obtain ⟨n,rfl⟩ := Nat.exists_eq_succ_of_ne_zero counted
  rw [readChunks]
  simp only [read,sized.ended,dite_true,sized.read,within,chunk]
  rfl

theorem transcriptRead (transcript : Transcript)
    (within : exceeds limit (total + transcript.body.length) = false) (rest : Bytes) :
    readChunks limit total (transcript.bytes ++ rest) = (.ok transcript.body,rest) := by
  induction transcript using Transcript.byChunks generalizing total with
  | none transcript none =>
    have read := readPiece transcript.zero.piece (transcript.trailerBytes ++ transcript.ending ++ rest)
    have bytes : transcript.bytes ++ rest =
        transcript.last ++ (transcript.trailerBytes ++ transcript.ending ++ rest) := by
      simp [Transcript.bytes,none]
    rw [bytes,readLast read transcript.zero,Transcript.trailerBytes,
      trailerTaken transcript.trailer transcript.empty]
    simp [Transcript.body,none,Except.map]
  | next chunk transcript ih =>
    simp only [Transcript.bodyBefore,List.length_append,← Nat.add_assoc] at within
    have read := readPiece chunk.sized.piece (chunk.data ++ (chunk.mark ++ (transcript.bytes ++ rest)))
    have bytes : (transcript.before chunk).bytes ++ rest =
        chunk.line ++ (chunk.data ++ (chunk.mark ++ (transcript.bytes ++ rest))) := by
      simp [TakenChunk.bytes]
    rw [bytes,readNext read chunk.sized (mt List.length_eq_zero_iff.mp chunk.filled)
      (exceedsLess within (Nat.le_add_right _ _)) (readChunkTaken chunk.indexed chunk.empty _),
      ih within,Transcript.bodyBefore]
    rfl

theorem takenTranscript (start : exceeds limit total = false)
    (read : readChunks limit total stream = (.ok body,rest)) :
    ∃ transcript : Transcript, stream = transcript.bytes ++ rest ∧ transcript.body = body ∧
      exceeds limit (total + body.length) = false := by
  fun_induction readChunks limit total stream generalizing body rest with
  | case1 => cases read
  | case2 total stream line ended size result after =>
    rename_i trailer
    cases result with
    | error => cases read
    | ok =>
      cases read
      obtain ⟨pieces,ending,empty,split⟩ := takenTrailer trailer
      have zero : SizeTaken line.1 0 := ⟨endedPiece (Prod.eta line).symm ended,ended,size⟩
      refine ⟨⟨[],line.1,zero,pieces,ending,empty⟩,?_,rfl,start⟩
      rw [← readLine_append maxLine stream,split]
      simp [Transcript.bytes,Transcript.trailerBytes,line]
  | case3 => cases read
  | case4 => cases read
  | case5 total stream line ended size counted declared within chunk data ok less result after =>
    rename_i others ih
    cases result with
    | error => cases read
    | ok more =>
      cases read
      have taken : readChunk size line.2 = (.ok data,chunk.2) := Prod.ext ok rfl
      obtain ⟨mark,split,rfl,indexed,empty⟩ := takenChunk taken
      have within : exceeds limit (total + data.length) = false := by simpa using within
      obtain ⟨transcript,bytes,rfl,all⟩ := ih within others
      have sized : SizeTaken line.1 data.length := ⟨endedPiece (Prod.eta line).symm ended,ended,declared⟩
      have filled : data ≠ [] := fun none => counted (by rw [none]; rfl)
      refine ⟨transcript.before ⟨line.1,data,mark,sized,filled,indexed,empty⟩,?_,by simp,?_⟩
      · rw [← readLine_append maxLine stream,split,bytes]
        simp [TakenChunk.bytes,line]
      · rwa [List.length_append,← Nat.add_assoc]
  | case6 => cases read

theorem readExactly (start : exceeds limit total = false) :
    readChunks limit total stream = (.ok body,rest) ↔
      ∃ transcript : Transcript, stream = transcript.bytes ++ rest ∧ transcript.body = body ∧
        exceeds limit (total + body.length) = false := by
  constructor
  · exact takenTranscript start
  · rintro ⟨transcript,rfl,rfl,within⟩
    exact transcriptRead transcript within rest

theorem readOverflow {line after : Bytes} (read : readLine maxLine stream = (line,after))
    (sized : SizeTaken line size) (counted : size ≠ 0)
    (within : exceeds limit (total + size) = false) (large : readBound ≤ size) :
    (readChunks limit total stream).1 = .error .sizeOverflow := by
  obtain ⟨n,rfl⟩ := Nat.exists_eq_succ_of_ne_zero counted
  rw [readChunks]
  simp only [read,sized.ended,dite_true,sized.read,within,readChunk,large,if_true]
  rfl

theorem overflowStays (failed : (readChunks limit total stream).1 = .error .sizeOverflow)
    (more : Bytes) : (readChunks limit total (stream ++ more)).1 = .error .sizeOverflow := by
  have again {stream : Bytes} (ended : endsLine (readLine maxLine stream).1 = true) :
      readLine maxLine (stream ++ more) =
        ((readLine maxLine stream).1,(readLine maxLine stream).2 ++ more) := by
    rw [← readPiece (endedPiece (Prod.eta (readLine maxLine stream)).symm ended),← List.append_assoc,
      readLine_append]
  fun_induction readChunks limit total stream with
  | case1 total stream line ended found size =>
    cases failed
    exact absurd rfl (sizeFails size).indexed
  | case2 total stream line ended size result after trailer =>
    cases result with
    | ok => cases failed
    | error found =>
      cases failed
      exact absurd rfl (trailerFails (congrArg Prod.fst trailer)).indexed
  | case3 => cases failed
  | case4 total stream line ended size counted declared within chunk found cut =>
    cases failed
    obtain misframed | ⟨_,large⟩ := chunkFails cut
    · exact absurd rfl misframed.indexed
    · exact readOverflow (again ended) ⟨endedPiece (Prod.eta line).symm ended,ended,declared⟩ counted
        (by simpa using within) large
  | case5 total stream line ended size counted declared within chunk data ok less result after others ih =>
    cases result with
    | ok => cases failed
    | error found =>
      cases failed
      have taken : readChunk size line.2 = (.ok data,chunk.2) := Prod.ext ok rfl
      obtain ⟨mark,split,rfl,indexed,empty⟩ := takenChunk taken
      have chunkAgain : readChunk data.length (line.2 ++ more) = (.ok data,chunk.2 ++ more) := by
        rw [split]
        simpa using readChunkTaken indexed empty (chunk.2 ++ more)
      rw [readNext (again ended) ⟨endedPiece (Prod.eta line).symm ended,ended,declared⟩ counted
        (by simpa using within) chunkAgain,ih (congrArg Prod.fst others)]
      rfl
  | case6 => cases failed

theorem beginningFails (transcript : Transcript)
    (within : exceeds limit (total + transcript.body.length) = false) {n : Nat}
    (less : n < transcript.bytes.length) :
    ∃ failure, (readChunks limit total (transcript.bytes.take n)).1 = .error failure ∧
      Misframed failure := by
  have whole : readChunks limit total transcript.bytes = (.ok transcript.body,[]) := by
    simpa using transcriptRead transcript within []
  have join : transcript.bytes.take n ++ transcript.bytes.drop n = transcript.bytes :=
    List.take_append_drop n transcript.bytes
  cases read : readChunks limit total (transcript.bytes.take n) with
  | mk result rest =>
  cases result with
  | error failure =>
    refine ⟨failure,rfl,?_⟩
    obtain misframed | ⟨rfl,_⟩ := chunksMisframed (congrArg Prod.fst read)
    · exact misframed
    · have fails := overflowStays (congrArg Prod.fst read) (transcript.bytes.drop n)
      rw [join,whole] at fails
      cases fails
  | ok body =>
    -- what was read of the beginning would be read of the whole too, and leave what was cut off
    have start : exceeds limit total = false := exceedsLess within (Nat.le_add_right _ _)
    obtain ⟨other,split,rfl,enough⟩ := takenTranscript start read
    rw [← join,split,List.append_assoc,transcriptRead other enough] at whole
    have none : rest ++ transcript.bytes.drop n = [] := congrArg Prod.snd whole
    simp only [List.append_eq_nil_iff,List.drop_eq_nil_iff] at none
    omega

end BotGateway.Http
