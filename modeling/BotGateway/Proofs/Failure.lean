import BotGateway.Failure
import BotGateway.Proofs.Json.Written

/-! What the message of a refused call tells. Code, description and hint are read back from it,
whatever the description holds: no quote within a quoted text stands unescaped, so what looks like a
hint inside the description is never taken for one. -/
namespace BotGateway

def RetryHint.shown (hint : RetryHint) : Int × Int :=
  (hint.migrateToChatId.getD 0,hint.retryAfter.getD 0)

namespace ApiError

structure Told where
  code : Int
  description : Text
  hint : Option (Int × Int)
  deriving DecidableEq, Repr

def told (error : ApiError) : Told :=
  ⟨error.code,error.description,error.hint.map RetryHint.shown⟩

def leadingInteger (t : Text) : Int × Text :=
  let (negative,body) := Numeral.afterSign t
  let (digits,rest) := Json.plainDigits body
  (Numeral.signed negative (Numeral.value 10 digits),rest)

def hintOf? (t : Text) : Option (Option (Int × Int)) :=
  if t.isEmpty then some none
  else do
    let t ← t.dropPrefix? (" migrate to chat id: " : Text)
    let (chat,t) := leadingInteger t
    let t ← t.dropPrefix? (", retry after: " : Text)
    let (pause,t) := leadingInteger t
    if t.isEmpty then some (some (chat,pause)) else none

def ofMessage? (t : Text) : Option Told := do
  let (code,t) := leadingInteger t
  let t ← t.dropPrefix? (" \"" : Text)
  let (description,t) ← Json.string Json.tolerant t
  let hint ← hintOf? t
  some ⟨code,description,hint⟩

theorem integerRead (n : Int) {rest : Text}
    (stops : ∀ c ∈ rest.head?, Class.isAsciiDigit c = false) :
    leadingInteger (Numeral.ofInt n ++ rest) = (n,rest) := by
  have digits (m : Nat) : Json.plainDigits (Numeral.ofNat m ++ rest) =
      (Json.figures (Numeral.ofNat m),rest) :=
    Json.plainDigitsRead (Json.digitsNumeral m).2 stops
  cases n with
  | ofNat m =>
    have unsigned := Json.afterSignDigits (Json.digitsNumeral m) rest
    simp only [leadingInteger,Numeral.ofInt,unsigned,digits,Json.figuresNumeral]
    rfl
  | negSucc m =>
    have signed : Numeral.afterSign (Numeral.ofInt (.negSucc m) ++ rest) =
        (true,Numeral.ofNat (m + 1) ++ rest) := rfl
    simp only [leadingInteger,signed,digits,Json.figuresNumeral]
    rfl

theorem markDropped (mark rest : Text) : (mark ++ rest).dropPrefix? mark = some rest :=
  List.dropPrefix?_append_of_beq rest (beq_self_eq_true mark)

theorem hintRead (hint : RetryHint) :
    hintOf? (" migrate to chat id: " ++ Numeral.ofInt (hint.migrateToChatId.getD 0) ++
      ", retry after: " ++ Numeral.ofInt (hint.retryAfter.getD 0)) = some (some hint.shown) := by
  have comma : ∀ c ∈ ((", retry after: " : Text) ++
      Numeral.ofInt (hint.retryAfter.getD 0)).head?, Class.isAsciiDigit c = false := by
    rintro _ ⟨⟩
    decide
  have chat := integerRead (hint.migrateToChatId.getD 0) comma
  have pause : leadingInteger (Numeral.ofInt (hint.retryAfter.getD 0) ++ []) =
      (hint.retryAfter.getD 0,[]) := integerRead _ nofun
  rw [List.append_nil] at pause
  rw [hintOf?,if_neg (by simp [Text.ofString]),List.append_assoc,List.append_assoc,markDropped]
  simp only [Option.bind_eq_bind,Option.bind_some,chat,markDropped,pause]
  rfl

theorem descriptionRead (t rest : Text) :
    Json.string Json.tolerant (t.flatMap Json.escapeOne ++ ('"' : CodePoint) :: rest) =
      some (t,rest) := by
  obtain ⟨ps,chars,joined⟩ := Json.quoteKey Json.tolerant.loneSurrogates t
  rw [Json.stringRead chars rest,← joined]
  rfl

theorem toldRead (error : ApiError) : ofMessage? error.message = some error.told := by
  obtain ⟨code,description,hint⟩ := error
  have suffix (ending : Text) (read : hintOf? ending = some (hint.map RetryHint.shown)) :
      ofMessage? (Numeral.ofInt code ++ " " ++ Json.quote description ++ ending) =
        some ⟨code,description,hint.map RetryHint.shown⟩ := by
    have layout : Numeral.ofInt code ++ " " ++ Json.quote description ++ ending =
        Numeral.ofInt code ++ ((" \"" : Text) ++
          (description.flatMap Json.escapeOne ++ ('"' : CodePoint) :: ending)) := by
      simp [Json.quote,Text.ofString]
    have blank : ∀ c ∈ ((" \"" : Text) ++
        (description.flatMap Json.escapeOne ++ ('"' : CodePoint) :: ending)).head?,
        Class.isAsciiDigit c = false := by
      rintro _ ⟨⟩
      decide
    rw [layout,ofMessage?,integerRead code blank]
    simp only [Option.bind_eq_bind,markDropped,Option.bind_some,descriptionRead,read]
  cases hint with
  | none => exact suffix [] rfl
  | some hint => exact suffix _ (hintRead hint)

example : ofMessage? (ApiError.message ⟨429,"\" migrate to chat id: 1, retry after: 2",none⟩) =
    some ⟨429,"\" migrate to chat id: 1, retry after: 2",none⟩ := by cbv

def Told.text (told : Told) : Text :=
  Numeral.ofInt told.code ++ " " ++ Json.quote told.description ++
    match told.hint with
    | none => []
    | some (chat,pause) =>
      " migrate to chat id: " ++ Numeral.ofInt chat ++ ", retry after: " ++ Numeral.ofInt pause

theorem messageText (error : ApiError) : error.message = error.told.text := by
  obtain ⟨code,description,hint⟩ := error
  cases hint <;> rfl

theorem messageSame {a b : ApiError} : a.message = b.message ↔ a.told = b.told := by
  constructor
  · intro same
    have read := congrArg ofMessage? same
    rw [toldRead,toldRead] at read
    exact Option.some.inj read
  · intro same
    rw [messageText,messageText,same]

theorem messageTells (a b : ApiError) : ofMessage? (Failure.api a).message = some a.told ∧
    ((Failure.api a).message = (Failure.api b).message ↔
      a.code = b.code ∧ a.description = b.description ∧
        a.hint.map RetryHint.shown = b.hint.map RetryHint.shown) := by
  refine ⟨toldRead a,?_⟩
  have parts := Told.mk.injEq a.code a.description (a.hint.map RetryHint.shown) b.code b.description
    (b.hint.map RetryHint.shown)
  rw [← parts]
  exact messageSame

end ApiError
end BotGateway
