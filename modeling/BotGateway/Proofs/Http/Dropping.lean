import BotGateway.Proofs.Http.Answer

/-! A body of declared length that nobody asked for, dropped, against the same body read. Reading
takes every numeral for a length, dropping only digits: a length with a sign, a blank or an
underscore leaves the body on the connection. -/
namespace BotGateway.Http
variable {fields : Fields} {stream body rest : Bytes}

def declaredLength (fields : Fields) : Text := (fields.get? lengthField).getD []

def Counted (fields : Fields) : Prop := ∀ c ∈ declaredLength fields, Class.isDigit c = true

theorem declaredRead {length : Int} (declared : contentLength fields = .ok length) :
    (declaredLength fields = [] ∧ length = 0) ∨ (declaredLength fields ≠ [] ∧
      Numeral.readDecimal (declaredLength fields) = .ok length) := by
  rw [contentLength,← declaredLength] at declared
  split at declared
  · rename_i empty
    cases declared
    exact .inl ⟨List.isEmpty_iff.mp empty,rfl⟩
  · rename_i filled
    split at declared
    · rename_i n read
      cases declared
      exact .inr ⟨mt List.isEmpty_iff.mpr filled,read⟩
    · cases declared

theorem discardUncounted (unchunked : isChunked (fields.get? codingField) = false)
    (uncounted : ¬Counted fields) : discardBody fields stream = (.ok none,stream) := by
  have other : (declaredLength fields).all Class.isDigit = false := by
    rw [← Bool.not_eq_true,List.all_eq_true]
    exact uncounted
  rw [discardBody,← declaredLength]
  simp only [unchunked,Bool.false_eq_true,if_false,other,Bool.not_false,Bool.or_true,if_true]

theorem discardCounted (unchunked : isChunked (fields.get? codingField) = false)
    (counted : Counted fields) {n : Nat} (declared : contentLength fields = .ok (n : Int))
    (small : n ≤ maxDiscard) : discardBody fields stream = (.ok none,stream.drop n) := by
  have digits : (declaredLength fields).all Class.isDigit = true := List.all_eq_true.mpr counted
  rw [discardBody,← declaredLength]
  simp only [unchunked,Bool.false_eq_true,if_false,digits,Bool.not_true,Bool.or_false]
  obtain ⟨none,zero⟩ | ⟨filled,read⟩ := declaredRead declared
  · obtain rfl : n = 0 := by exact_mod_cast zero
    simp [none]
  · have within : (n : Int) ≤ maxDiscard := by exact_mod_cast small
    simp only [List.isEmpty_eq_false_iff.mpr filled,Bool.false_eq_true,if_false,read,within,if_true,
      Int.toNat_natCast]

theorem readSizedBody (unchunked : isChunked (fields.get? codingField) = false)
    (read : readBody fields stream = (.ok body,rest)) :
    stream = body ++ rest ∧ contentLength fields = .ok (body.length : Int) := by
  cases bodyFramed read with
  | chunked coding => simp [unchunked] at coding
  | sized _ declared => exact ⟨rfl,declared⟩

namespace Connection
variable {world : Type} {scene : Scene (Connection world)}

theorem droppedBody (fields : Fields) (unread : scene.world.bodyRead = false)
    (sound : (discardBody fields scene.world.stream).1 = .ok none) :
    (dropBody fields).perform scene = (.ok (),⟨scene.journal,
      ⟨(discardBody fields scene.world.stream).2,false,scene.world.behind⟩⟩) := by
  simp only [dropBody,Action.perform_bind,Action.perform_current,unread,Bool.false_eq_true,if_false,
    Action.perform_change,sound]
  rfl

theorem respondDrops (line : Text) (request : RequestLine) (status : Status) {after : Scene (Connection world)}
    (dropped : (dropBody fields).perform scene = (.ok (),after)) :
    ((respond line request fields status).perform scene).2.world = after.world := by
  rw [respond,Action.perform_bind,dropped]
  rfl

structure Drops (fields : Fields) (scene : Scene (Connection world)) (body : Bytes) : Prop where
  ends : ((dropBody fields).perform scene).1 = .ok ()
  takes : scene.world.stream = body ++ ((dropBody fields).perform scene).2.world.stream
  answered : ∀ line request status,
    scene.world.stream = body ++ ((respond line request fields status).perform scene).2.world.stream

theorem dropsExactly (unread : scene.world.bodyRead = false)
    (unchunked : isChunked (fields.get? codingField) = false) {after : Scene (Connection world)}
    (read : (takeBody fields).perform scene = (.ok body,after)) (small : body.length ≤ maxDiscard) :
    Drops fields scene body ↔ body = [] ∨ Counted fields := by
  rw [takenBody] at read
  have result : (readBody fields scene.world.stream).1 = .ok body := congrArg Prod.fst read
  obtain ⟨whole,declared⟩ := readSizedBody unchunked (Prod.ext result rfl)
  constructor
  · intro drops
    by_contra neither
    obtain ⟨filled,uncounted⟩ := not_or.mp neither
    have kept : discardBody fields scene.world.stream = (.ok none,scene.world.stream) :=
      discardUncounted unchunked uncounted
    have takes := drops.takes
    rw [droppedBody fields unread (by rw [kept]),kept] at takes
    exact filled (List.append_left_eq_self.mp takes.symm)
  · intro either
    have taken : discardBody fields scene.world.stream =
        (.ok none,scene.world.stream.drop body.length) := by
      by_cases counted : Counted fields
      · exact discardCounted unchunked counted declared small
      · obtain rfl := either.resolve_right counted
        rw [discardUncounted unchunked counted]
        rfl
    have dropped := droppedBody fields unread (by rw [taken])
    have split : scene.world.stream = body ++ scene.world.stream.drop body.length := by
      rw [whole,List.drop_left]
    rw [taken] at dropped
    refine ⟨by rw [dropped],by rw [dropped]; exact split,fun line request status => ?_⟩
    rw [respondDrops line request status dropped]
    exact split

def greeting : Bytes := ascii "hello"

def greetingScene : Scene (Connection Unit) := ⟨.empty,opened (greeting ++ ascii "!") ()⟩

def greetingTaken : Scene (Connection Unit) := ⟨.empty,⟨ascii "!",true,()⟩⟩

def plainFields : Fields := ofSection (ascii "Content-Length: 5\r\n\r\n")

theorem greetingDrops : greetingScene.world.bodyRead = false ∧
    isChunked (plainFields.get? codingField) = false ∧
    (takeBody plainFields).perform greetingScene = (.ok greeting,greetingTaken) ∧
    greeting.length ≤ maxDiscard ∧ Drops plainFields greetingScene greeting := by
  have counted : Counted plainFields :=
    List.all_eq_true.mp (rfl : (declaredLength plainFields).all Class.isDigit = true)
  exact ⟨rfl,by decide,rfl,by decide,
    (dropsExactly rfl (by decide) rfl (by decide)).mpr (.inr counted)⟩

def blankFields : Fields := ofSection (ascii "Content-Length: 5 \r\n\r\n")

theorem blankLengthStays : greetingScene.world.bodyRead = false ∧
    isChunked (blankFields.get? codingField) = false ∧
    (takeBody blankFields).perform greetingScene = (.ok greeting,greetingTaken) ∧
    greeting.length ≤ maxDiscard ∧
    ((dropBody blankFields).perform greetingScene).2.world.stream = greetingScene.world.stream ∧
    ¬Drops blankFields greetingScene greeting := by
  have stays : ((dropBody blankFields).perform greetingScene).2.world.stream =
      greetingScene.world.stream := rfl
  refine ⟨rfl,by decide,rfl,by decide,stays,fun drops => ?_⟩
  have takes := drops.takes
  rw [stays] at takes
  revert takes
  decide

end Connection
end BotGateway.Http
