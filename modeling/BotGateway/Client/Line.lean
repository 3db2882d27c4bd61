import BotGateway.Action
import BotGateway.Envelope
import BotGateway.Request.Source

/-! The line to the other side: posts go out, and each is answered by the next reply. -/
namespace BotGateway

inductive Reply where
  | answered (status : Int) (body : Bytes)
  | failed (failure : Failure)

structure Post where
  url : Text
  contentType : Text
  body : Bytes
  timeout : Value

structure Line where
  pending : List Reply
  afterwards : Reply
  sent : List Post

namespace Line

def exchange (post : Post) (line : Line) : Reply × Line :=
  match line.pending with
  | reply :: rest => (reply,⟨rest,line.afterwards,line.sent ++ [post]⟩)
  | [] => (line.afterwards,⟨[],line.afterwards,line.sent ++ [post]⟩)

def firstServerError : Int := 500

def receive (url : Text) : Reply → Action world Envelope
  | .answered status body =>
    if firstServerError ≤ status then do
      Action.note .error "Bot API server error" [("url",.text url),("status_code",.int status)]
      throw (.serverError status)
    else
      match Envelope.decode body with
      | .ok envelope => return envelope
      | .error failure => throw failure
  | .failed failure =>
    if failure.kind == .network then do
      Action.note .error "Bot API request error"
        [("url",.text url),("error",.text failure.message)]
      throw (.networkDown failure.message)
    else throw failure

def call (post : Post) : Action Line Envelope := do
  let (reply,line) := (← Action.current).exchange post
  Action.change fun _ => line
  receive post.url reply

end Line

structure Outside where
  shelf : Shelf
  line : Line

namespace Outside

def onShelf (action : Action Shelf α) : Action Outside α :=
  Action.within Outside.shelf (fun shelf outside => {outside with shelf := shelf}) action

def onLine (action : Action Line α) : Action Outside α :=
  Action.within Outside.line (fun line outside => {outside with line := line}) action

end Outside
end BotGateway
