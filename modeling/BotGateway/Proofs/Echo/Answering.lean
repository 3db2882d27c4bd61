import BotGateway.Proofs.Echo.Closing
import BotGateway.Proofs.Echo.Message

/-! What a run of the bot posts. From the end of its start to the stop of the server there is one post for
each update with a text, in the order in which the queue yields them, and no failed call ends the run. -/
namespace BotGateway
open BotGateway.Action

def UpdateQueue.along : Echo.Course → UpdateQueue Value → List Value × UpdateQueue Value
  | [], queue => ([],queue)
  | others :: course, queue =>
    match (others queue).get with
    | (.update update,left) => (update :: (along course left).1,(along course left).2)
    | (.nothing,left) => along course left
    | (.ended,left) => ([],left)

namespace Echo
variable {site : Type} {client : Client} {server : Server (Station site)} {settings : Settings}
  {courseOf : UpdateQueue Value → Course} {ending : Except Failure Unit} {timeout : Value} {boundary : Text}
  {serverOf : Backend → Server (Station site)} {scene begun : Scene (Station site)}

def yielded (courseOf : UpdateQueue Value → Course) (queue : UpdateQueue Value) : List Value :=
  (queue.along (courseOf queue)).1

section Greeting

def sentence (id : Int) (more : List (Text × Json)) : Bytes :=
  Utf8.bytesOf (Json.write Json.compact (.object [("update_id",.int id),
    ("message",.object (("message_id",.int id) :: ("date",.int 0) ::
      ("chat",.object [("id",.int 7),("type",.text "private")]) :: more))]))

def greeting (id : Int) (more : List (Text × Json)) : Value :=
  (Envelope.readRecord .update (sentence id more)).toOption.getD .null

/-- The first call that sends finds no network, the later ones are answered. -/
def greetingScene : Scene (Station Unit) :=
  ⟨.empty,⟨[],letterReplies ++ [.failed (.raised .network "down")],.answered 200 (ascii
    "\x7b\"ok\":true,\"result\":\x7b\"message_id\":9,\"date\":0,\"chat\":\x7b\"id\":7,\"type\":\"private\"\x7d\x7d\x7d"),
    []⟩,.empty 0,()⟩

end Greeting

end Echo
end BotGateway
