import BotGateway.Http.Chunked

/-! What becomes of a chunked body. A body that is read consists of chunks whose data are as long as
their sizes say, up to one of size zero. Reading fails in ways that a server expects, but for a
size beyond every index, which a limit rules out. -/
namespace BotGateway.Http

inductive Chunks : Bytes → Bytes → Bytes → Prop where
  | last {stream line after rest}
      (read : readLine maxLine stream = (line,after)) (ended : endsLine line = true)
      (size : readSize line = .ok 0) (trailer : skipTrailer after = (.ok (),rest)) :
      Chunks stream [] rest
  | chunk {stream line data marked mark after body rest}
      (read : readLine maxLine stream = (line,data ++ marked)) (ended : endsLine line = true)
      (size : readSize line = .ok data.length) (filled : data ≠ [])
      (closed : readLine maxLine marked = (mark,after)) (empty : isEmptyLine mark = true)
      (others : Chunks after body rest) : Chunks stream (data ++ body) rest

def Expected (limit : Option Nat) (failure : Failure) : Prop :=
  failure.kind.isInput = true ∨ (failure = .sizeOverflow ∧ exceeds limit readBound = false)

def Misframed (failure : Failure) : Prop := failure.kind = .connection ∨ failure.kind = .value

variable {limit : Option Nat} {total size : Nat} {stream body rest line : Bytes} {failure : Failure}

theorem Misframed.input (misframed : Misframed failure) : failure.kind.isInput = true := by
  obtain connection | value := misframed
  · rw [connection]
    rfl
  · rw [value]
    rfl

theorem Misframed.indexed (misframed : Misframed failure) : failure ≠ .sizeOverflow := by
  rintro rfl
  obtain connection | value := misframed
  · cases connection
  · cases value

theorem sizeFails (failed : readSize line = .error failure) : Misframed failure := by
  unfold readSize chunkSize at failed
  cases read : Numeral.readHex (Quoted.latin (sizeField line)) with
  | error fault =>
    simp only [read,bind,Except.bind] at failed
    cases failed
    exact .inr (by cases fault <;> rfl)
  | ok n =>
    simp only [read,bind,Except.bind] at failed
    split at failed
    · cases failed
      exact .inr rfl
    · cases failed

theorem trailerFails (failed : (skipTrailer stream).1 = .error failure) : Misframed failure := by
  fun_induction skipTrailer stream with
  | case1 =>
    cases failed
    exact .inl rfl
  | case2 => cases failed
  | case3 stream read filled more line ih => exact ih failed

theorem chunkFilled {data : Bytes} (read : readChunk size stream = (.ok data,rest)) :
    ∃ marked mark, stream = data ++ marked ∧ data.length = size ∧
      readLine maxLine marked = (mark,rest) ∧ isEmptyLine mark = true := by
  simp only [readChunk] at read
  split at read
  · cases read
  · split at read
    · cases read
    · rename_i full
      split at read
      · rename_i empty
        cases read
        exact ⟨stream.drop size,_,(List.take_append_drop size stream).symm,Decidable.not_not.mp full,rfl,empty⟩
      · cases read

theorem chunkFails (failed : (readChunk size stream).1 = .error failure) :
    Misframed failure ∨ (failure = .sizeOverflow ∧ readBound ≤ size) := by
  simp only [readChunk] at failed
  split at failed
  · rename_i large
    cases failed
    exact .inr ⟨rfl,large⟩
  · split at failed
    · cases failed
      exact .inl (.inl rfl)
    · split at failed
      · cases failed
      · cases failed
        exact .inl (.inr rfl)

theorem chunksRead (read : readChunks limit total stream = (.ok body,rest)) :
    Chunks stream body rest := by
  fun_induction readChunks limit total stream generalizing body rest with
  | case1 => cases read
  | case2 total stream line ended size result after =>
    rename_i trailer
    cases result with
    | error => cases read
    | ok =>
      cases read
      exact .last rfl ended size trailer
  | case3 => cases read
  | case4 => cases read
  | case5 total stream line ended size counted declared within chunk data ok less result after =>
    rename_i others ih
    cases result with
    | error => cases read
    | ok more =>
      cases read
      obtain ⟨marked,mark,split,length,closed,empty⟩ := chunkFilled (Prod.ext ok rfl)
      have filled : data ≠ [] := fun none => counted (by rw [← length,none]; rfl)
      exact .chunk (Prod.ext rfl split) ended (by rw [length]; exact declared) filled closed empty
        (ih others)
  | case6 => cases read

theorem exceedsMore {extra : Nat} (within : ¬exceeds limit extra = true) (more : size ≤ extra) :
    exceeds limit size = false := by
  cases limit with
  | none => rfl
  | some bound =>
    simp only [exceeds,decide_eq_true_eq,decide_eq_false_iff_not] at within ⊢
    omega

theorem chunksMisframed (failed : (readChunks limit total stream).1 = .error failure) :
    Misframed failure ∨ (failure = .sizeOverflow ∧ exceeds limit readBound = false) := by
  fun_induction readChunks limit total stream with
  | case1 total stream line ended found size =>
    cases failed
    exact .inl (sizeFails size)
  | case2 total stream line ended size result after trailer =>
    cases result with
    | ok => cases failed
    | error found =>
      cases failed
      exact .inl (trailerFails (congrArg Prod.fst trailer))
  | case3 =>
    cases failed
    exact .inl (.inr rfl)
  | case4 total stream line ended size counted declared within chunk found cut =>
    cases failed
    obtain misframed | ⟨overflow,large⟩ := chunkFails cut
    · exact .inl misframed
    · exact .inr ⟨overflow,exceedsMore within (by omega)⟩
  | case5 total stream line ended size counted declared within chunk data ok less result after others ih =>
    cases result with
    | ok => cases failed
    | error found =>
      cases failed
      exact ih (congrArg Prod.fst others)
  | case6 =>
    cases failed
    exact .inl (.inl rfl)

theorem chunksFail (failed : (readChunks limit total stream).1 = .error failure) :
    Expected limit failure :=
  (chunksMisframed failed).imp_left Misframed.input

end BotGateway.Http
