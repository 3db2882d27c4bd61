import BotGateway.Proofs.Http.Transcript

/-! Chunked bodies read with a limit and without one. The limit tells how long a body may be and
nothing else: a body within it is read as ever, and a longer one is given up at the first chunk that
would go beyond it, before any of the data of that chunk is taken. -/
namespace BotGateway.Http
variable {limit total size : Nat} {stream rest : Bytes}

def Crossed (limit : Nat) (stream rest : Bytes) : Prop :=
  ∃ (chunks : List TakenChunk) (line : Bytes) (size : Nat), SizeTaken line size ∧
    stream = chunks.flatMap TakenChunk.bytes ++ line ++ rest ∧
    (chunks.flatMap TakenChunk.data).length ≤ limit ∧
    limit < (chunks.flatMap TakenChunk.data).length + size

theorem Crossed.here {line : Bytes} (sized : SizeTaken line size) (beyond : limit < size)
    (rest : Bytes) : Crossed limit (line ++ rest) rest :=
  ⟨[],line,size,sized,by simp,by simp,by simpa using beyond⟩

theorem Crossed.later (chunk : TakenChunk) (within : chunk.data.length ≤ limit)
    (others : Crossed (limit - chunk.data.length) stream rest) :
    Crossed limit (chunk.bytes ++ stream) rest := by
  obtain ⟨chunks,line,size,sized,rfl,fits,beyond⟩ := others
  refine ⟨chunk :: chunks,line,size,sized,by simp,?_,?_⟩
  all_goals
    rw [List.flatMap_cons,List.length_append]
    omega

theorem readBeyond {limit : Option Nat} {line after : Bytes}
    (read : readLine maxLine stream = (line,after)) (sized : SizeTaken line size) (counted : size ≠ 0)
    (beyond : exceeds limit (total + size) = true) :
    readChunks limit total stream = (.error (.bodyTooLarge (limit.getD 0)),after) := by
  obtain ⟨n,rfl⟩ := Nat.exists_eq_succ_of_ne_zero counted
  rw [readChunks]
  simp only [read,sized.ended,dite_true,sized.read,beyond,if_true]

theorem transcriptCrossed (transcript : Transcript) (start : total ≤ limit)
    (long : limit < total + transcript.body.length) (rest : Bytes) :
    ∃ left, readChunks (some limit) total (transcript.bytes ++ rest) =
        (.error (.bodyTooLarge limit),left) ∧
      Crossed (limit - total) (transcript.bytes ++ rest) left := by
  induction transcript using Transcript.byChunks generalizing total with
  | none transcript none =>
    rw [Transcript.body,none,List.flatMap_nil,List.length_nil] at long
    omega
  | next chunk transcript ih =>
    simp only [Transcript.bodyBefore,List.length_append] at long
    have filled : chunk.data.length ≠ 0 := mt List.length_eq_zero_iff.mp chunk.filled
    let behind := chunk.data ++ (chunk.mark ++ (transcript.bytes ++ rest))
    have read : readLine maxLine (chunk.line ++ behind) = (chunk.line,behind) :=
      readPiece chunk.sized.piece behind
    have bytes : (transcript.before chunk).bytes ++ rest = chunk.line ++ behind := by
      simp [TakenChunk.bytes,behind]
    by_cases within : total + chunk.data.length ≤ limit
    · obtain ⟨left,ends,crossed⟩ := ih within (by omega)
      have allowed : exceeds (some limit) (total + chunk.data.length) = false := by
        simpa [exceeds] using within
      have next := readNext read chunk.sized filled allowed
        (readChunkTaken chunk.indexed chunk.empty _)
      rw [Nat.sub_add_eq] at crossed
      refine ⟨left,?_,?_⟩
      · rw [bytes,next,ends]
        rfl
      · rw [Transcript.bytesBefore,List.append_assoc]
        exact .later chunk (by omega) crossed
    · have beyond : exceeds (some limit) (total + chunk.data.length) = true := by
        simpa [exceeds] using within
      refine ⟨behind,?_,?_⟩
      · rw [bytes,readBeyond read chunk.sized filled beyond]
        rfl
      · rw [bytes]
        exact .here chunk.sized (by omega) behind

structure Limited (limit : Nat) (stream : Bytes) : Prop where
  same : ∀ body rest, readChunked none stream = (.ok body,rest) → body.length ≤ limit →
    readChunked (some limit) stream = (.ok body,rest)
  longer : ∀ body rest, readChunked none stream = (.ok body,rest) → limit < body.length →
    ∃ failure left, readChunked (some limit) stream = (.error failure,left) ∧
      failure.kind = .value ∧ Crossed limit stream left
  fails : ∀ failure rest, readChunked none stream = (.error failure,rest) →
    ∃ other left, readChunked (some limit) stream = (.error other,left)
  only : ∀ body rest, readChunked (some limit) stream = (.ok body,rest) →
    readChunked none stream = (.ok body,rest) ∧ body.length ≤ limit

theorem readLimited {body : Bytes} : readChunked (some limit) stream = (.ok body,rest) ↔
    readChunked none stream = (.ok body,rest) ∧ body.length ≤ limit := by
  have free : readChunks none 0 stream = (.ok body,rest) ↔ _ := readExactly rfl
  have bounded : readChunks (some limit) 0 stream = (.ok body,rest) ↔ _ := readExactly rfl
  have within : exceeds (some limit) (0 + body.length) = false ↔ body.length ≤ limit := by
    simp [exceeds]
  rw [readChunked,readChunked,bounded,free]
  constructor
  · rintro ⟨transcript,split,told,fits⟩
    exact ⟨⟨transcript,split,told,rfl⟩,within.mp fits⟩
  · rintro ⟨⟨transcript,split,told,_⟩,fits⟩
    exact ⟨transcript,split,told,within.mpr fits⟩

theorem limitAgrees (limit : Nat) (stream : Bytes) : Limited limit stream := by
  constructor
  case same =>
    intro body rest read fits
    exact readLimited.mpr ⟨read,fits⟩
  case longer =>
    intro body rest read long
    obtain ⟨transcript,rfl,rfl,_⟩ := takenTranscript rfl read
    obtain ⟨left,ends,crossed⟩ :=
      transcriptCrossed transcript (Nat.zero_le limit) (by simpa using long) rest
    exact ⟨.bodyTooLarge limit,left,ends,rfl,crossed⟩
  case fails =>
    intro failure rest failed
    cases bounded : readChunked (some limit) stream with
    | mk result left =>
      cases result with
      | error other => exact ⟨other,left,rfl⟩
      | ok body =>
        -- what is read within a limit is read without one
        rw [(readLimited.mp bounded).1] at failed
        cases failed
  case only =>
    intro body rest read
    exact readLimited.mp read

end BotGateway.Http
