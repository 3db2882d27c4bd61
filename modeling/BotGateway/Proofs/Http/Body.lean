import BotGateway.Http.Connection
import BotGateway.Proofs.Http.Chunked
import BotGateway.Proofs.Number.Reading

/-! The two ways a body leaves its connection: read for a handler, or dropped because nobody asked.
A body that is read is all that its framing declares. Dropping one fails exactly where the declared
length consists of digits that make no number. -/
namespace BotGateway.Http

theorem inputOrdinary {kind : Failure.Kind} (input : kind.isInput = true) : kind.isOrdinary = true := by
  cases kind <;> first | rfl | cases input

inductive Framed (fields : Fields) : Bytes → Bytes → Bytes → Prop where
  | chunked {stream body rest} (coding : isChunked (fields.get? codingField) = true)
      (chunks : Chunks stream body rest) : Framed fields stream body rest
  | sized {body rest} (coding : isChunked (fields.get? codingField) = false)
      (declared : contentLength fields = .ok (body.length : Int)) :
      Framed fields (body ++ rest) body rest

variable {fields : Fields} {stream body rest : Bytes} {failure : Failure} {length : Int}

theorem sizedRead (read : readSized length stream = (.ok body,rest)) :
    stream = body ++ rest ∧ (body.length : Int) = length := by
  unfold readSized at read
  split at read
  · cases read
  · split at read
    · cases read
    · dsimp only at read
      split at read
      · rename_i whole
        cases read
        exact ⟨(List.take_append_drop length.toNat stream).symm,whole⟩
      · cases read

theorem sizedFails (failed : (readSized length stream).1 = .error failure) :
    failure.kind.isOrdinary = true := by
  unfold readSized at failed
  split at failed
  · cases failed
    rfl
  · split at failed
    · cases failed
      rfl
    · dsimp only at failed
      split at failed
      · cases failed
      · cases failed
        rfl

theorem lengthFails (failed : contentLength fields = .error failure) :
    failure.kind.isInput = true := by
  unfold contentLength at failed
  dsimp only at failed
  split at failed
  · cases failed
  · split at failed
    · cases failed
    · rename_i fault _
      cases failed
      cases fault <;> rfl

theorem bodyFramed (read : readBody fields stream = (.ok body,rest)) :
    Framed fields stream body rest := by
  unfold readBody at read
  split at read
  · rename_i coding
    exact .chunked coding (chunksRead read)
  · rename_i coding
    split at read
    · cases read
    · rename_i length declared
      obtain ⟨rfl,same⟩ := sizedRead read
      exact .sized (by simpa using coding) (by rw [same]; exact declared)

theorem bodyFails (failed : (readBody fields stream).1 = .error failure) :
    failure.kind.isOrdinary = true := by
  unfold readBody at failed
  split at failed
  · obtain input | ⟨rfl,_⟩ := chunksFail failed
    · exact inputOrdinary input
    · rfl
  · split at failed
    · rename_i declared
      cases failed
      exact inputOrdinary (lengthFails declared)
    · exact sizedFails failed

def Droppable (fields : Fields) : Prop :=
  isChunked (fields.get? codingField) = false →
    let declared := (fields.get? lengthField).getD []
    (∀ c ∈ declared, Class.isDigit c = true) →
      (∀ c ∈ declared, Class.isDecimal c = true) ∧ declared.length ≤ Numeral.maxDigits

theorem dropChunked (coding : isChunked (fields.get? codingField) = true) :
    ∃ note, (discardBody fields stream).1 = .ok note := by
  unfold discardBody
  rw [if_pos coding]
  dsimp only
  split
  · exact ⟨_,rfl⟩
  · rename_i failure failed
    have input : failure.kind.isInput = true := by
      obtain input | ⟨_,beyond⟩ := chunksFail failed
      · exact input
      · exact absurd beyond (by decide)
    rw [if_pos input]
    exact ⟨_,rfl⟩

theorem dropSized (coding : isChunked (fields.get? codingField) = false) :
    (∃ note, (discardBody fields stream).1 = .ok note) ↔
      let declared := (fields.get? lengthField).getD []
      (declared ≠ [] ∧ ∀ c ∈ declared, Class.isDigit c = true) →
        ∃ n, Numeral.readDecimal declared = .ok n := by
  unfold discardBody
  rw [if_neg (by simp [coding])]
  dsimp only
  generalize (fields.get? lengthField).getD [] = declared
  split
  · rename_i undeclared
    simp only [Bool.or_eq_true,List.isEmpty_iff,Bool.not_eq_true',List.all_eq_false] at undeclared
    refine iff_of_true ⟨_,rfl⟩ fun ⟨filled,digits⟩ => ?_
    obtain none | ⟨c,member,other⟩ := undeclared
    · exact absurd none filled
    · exact absurd (digits c member) other
  · rename_i counted
    simp only [Bool.or_eq_true,List.isEmpty_iff,Bool.not_eq_true',not_or,Bool.not_eq_false,
      List.all_eq_true] at counted
    cases read : Numeral.readDecimal declared with
    | error fault =>
      refine iff_of_false nofun fun readable => ?_
      obtain ⟨n,same⟩ := readable counted
      cases same
    | ok n =>
      dsimp only
      split
      · exact iff_of_true ⟨_,rfl⟩ fun _ => ⟨n,rfl⟩
      · exact iff_of_true ⟨_,rfl⟩ fun _ => ⟨n,rfl⟩

theorem dropEnds (stream : Bytes) :
    (∃ note, (discardBody fields stream).1 = .ok note) ↔ Droppable fields := by
  unfold Droppable
  cases coding : isChunked (fields.get? codingField) with
  | true => simp [dropChunked coding]
  | false =>
    rw [dropSized coding]
    dsimp only
    generalize (fields.get? lengthField).getD [] = declared
    by_cases none : declared = []
    · simp [none]
    · constructor
      · intro readable _ digits
        exact (Numeral.readDigits none digits).mp (readable ⟨none,digits⟩)
      · intro droppable ⟨_,digits⟩
        exact (Numeral.readDigits none digits).mpr (droppable rfl digits)

end BotGateway.Http
