import Backlog.Http.Message
import Backlog.Http.Status
import Backlog.Http.Url
import Backlog.Text
/-!
Exchanges with a server: what is asked, what comes back, and a peer that answers from a list of
replies and keeps what it was asked.
-/
namespace Backlog.Http
set_option autoImplicit false

structure Request where
  method : Text
  /-- The target: the path, and the query if there is one. -/
  path : Text
  accept : Text
  authorization : Text
  contentType : Text
  userAgent : Text
  body : Text
  deriving DecidableEq, Repr

inductive Reply where
  | answered (status : Nat) (body : Text)
  /-- The connection was closed without an answer. -/
  | dropped
  deriving DecidableEq, Repr

/-- The message that a reply brings, if it brings one. What follows an announcement is read as a
message of its own; three statuses have no body; a status without three digits is none. -/
def Reply.message? : Reply → Option Message
  | .dropped => none
  | .answered status body =>
    if Message.isAnnouncement status then Message.read? (Text.utf8 body)
    else if status = 101 ∨ status = 204 ∨ status = 304 then some ⟨status, some []⟩
    else if 100 ≤ status ∧ status ≤ 999 then some ⟨status, some (Text.utf8 body)⟩
    else none

/-- The body of a message as a text. What was cut short shows as nothing. -/
def Message.text (m : Message) : Text := (m.body.map Text.ofUtf8Lossy).getD []

/-- The body of a message, if all of it came and it is a text. -/
def Message.text? (m : Message) : Option Text := m.body.bind Text.ofUtf8?

/-- A server, with the replies that it will give and the requests that it has got. -/
structure Peer where
  /-- The scheme and the place that it answers at. -/
  origin : Text
  replies : List Reply
  received : List Request

namespace Peer

/-- The reply to one more request. When no reply is left, the answer is a failure of the server. -/
def receive (peer : Peer) (request : Request) : Reply × Peer :=
  (peer.replies.head?.getD (.answered 500 []),
    { peer with replies := peer.replies.tail, received := peer.received ++ [request] })

end Peer

def fitsHeader (c : Char) : Bool := c == '\t' || (0x20 ≤ c.toNat && c.toNat != 0x7F)

/-- The value of a header as it arrives: spaces and tabs around it do not count. -/
def headerValue (t : Text) : Text := Text.trim (fun c => c == ' ' || c == '\t') t

end Backlog.Http
