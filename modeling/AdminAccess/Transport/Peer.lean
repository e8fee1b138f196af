import AdminAccess.Transport.Framing
import AdminAccess.Transport.Outgoing

/-!
# Servers and what becomes of a request

The conduct of a server decides how an exchange ends.  `Listener.exchange` gives what the
server reads of a request and the reply that the caller gets.  Every exchange has a connection of
its own: the pool of connections, the handshake of a secure one and the look-up of names are left
out.
-/

namespace AdminAccess

inductive Afterwards where
  | closed
  | silent
  deriving DecidableEq, Repr, Inhabited

structure Incoming where
  status : Nat
  fields : List WireField
  body : Bytes
  deriving DecidableEq, Repr, Inhabited

namespace Incoming

def announce (incoming : Incoming) (length : Nat) : Incoming :=
  { incoming with
    fields := incoming.fields ++ [⟨"content-length", Utf8.encode (toString length)⟩] }

def readFields (incoming : Incoming) : List WireField :=
  incoming.fields.map WireField.read

/-- The fields whose values are text; of several with one name the last counts. -/
def headers (incoming : Incoming) : Headers :=
  let shown := incoming.readFields.filter fun field =>
    field.value.all WireField.isVisibleByte
  Headers.ofList (shown.map fun field => (field.name, Utf8.decodeLossy field.value))

def isProvisional (status : Nat) : Bool :=
  100 ≤ status && status < 200 && status ≠ 101

def maxFields : Nat := 100

def isReadable (incoming : Incoming) : Bool :=
  100 ≤ incoming.status && incoming.status < 1000
    && incoming.fields.all WireField.isValid && incoming.fields.length ≤ maxFields

/-- The failure of an exchange that broke off before there was an answer. -/
def broken : Failure :=
  .connection "client error (SendRequest)"

def brokenOff : Failure :=
  .connection "error reading a body from connection"

/-- What becomes of a payload that is not at its end behind the last byte. -/
def unfinished : Afterwards → Failure
  | .closed => brokenOff
  | .silent => .timeout

def payload (incoming : Incoming) (afterwards : Afterwards) : Except Failure Bytes :=
  match Framing.ofHead? incoming.status incoming.readFields with
  | none => .error broken
  | some .nothing => .ok []
  | some (.length count) =>
    if count ≤ incoming.body.length then .ok (incoming.body.take count)
    else .error (unfinished afterwards)
  | some .untilEnd =>
    match afterwards with
    | .closed => .ok incoming.body
    | .silent => .error (unfinished afterwards)
  | some .pieces =>
    match Pieces.read incoming.body with
    | .complete body => .ok body
    | .damaged => .error brokenOff
    | .unfinished => .error (unfinished afterwards)

/-- What the caller gets of what a server sends.  Behind a provisional status the actual
answer is waited for. -/
def reply (incoming : Incoming) (afterwards : Afterwards) : Reply :=
  if !incoming.isReadable then .error broken
  else if isProvisional incoming.status then
    .error (if incoming.body.isEmpty && afterwards = .silent then .timeout else broken)
  else
    match incoming.payload afterwards with
    | .error failure => .error failure
    | .ok body => .ok ⟨incoming.status, incoming.headers, body⟩

end Incoming

inductive Peer where
  /-- Nothing listens. -/
  | absent
  /-- The server closes the connection before it reads anything. -/
  | hangingUp
  /-- The server reads the request and closes the connection. -/
  | closing
  /-- The server reads the request and never answers. -/
  | silent
  /-- The server reads the request and answers. -/
  | answering (incoming : Incoming) (afterwards : Afterwards)
  deriving DecidableEq, Repr, Inhabited

namespace Peer

/-- A server that answers with the whole payload; it may leave the length unsaid. -/
def replying (incoming : Incoming) (withLength : Bool) : Peer :=
  .answering (if withLength then incoming.announce incoming.body.length else incoming) .closed

def missing : Nat := 10

def stopping (incoming : Incoming) (afterwards : Afterwards) : Peer :=
  .answering (incoming.announce (incoming.body.length + missing)) afterwards

def unreachable : Failure :=
  .connection "client error (Connect)"

def isReading : Peer → Bool
  | .absent => false
  | .hangingUp => false
  | _ => true

def plainReply : Peer → Reply
  | .absent => .error unreachable
  | .hangingUp => .error Incoming.broken
  | .closing => .error Incoming.broken
  | .silent => .error .timeout
  | .answering incoming afterwards => incoming.reply afterwards

/-- The reply to a request through a secure channel.  No server here sets one up: one that
reads waits for the end of a request, which the client does not send before. -/
def securedReply (peer : Peer) : Reply :=
  .error (if peer.isReading then .timeout else unreachable)

end Peer

structure Listener where
  host : UrlHost
  port : Nat
  conduct : Peer
  deriving DecidableEq, Repr, Inhabited

namespace Listener

def peerAt (listener : Listener) (url : Url) : Peer :=
  match url.authority with
  | some authority =>
    if authority.host = some listener.host && authority.port = some listener.port then
      listener.conduct
    else .absent
  | none => .absent

def nameless : Failure :=
  .connection "client error (UserAbsoluteUriRequired)"

def exchange (listener : Listener) (request : Request) : Option Outgoing × Reply :=
  let peer := listener.peerAt request.url
  match Outgoing.ofRequest? request with
  | .error failure => (none, .error failure)
  | .ok (.nameless, _) => (none, .error nameless)
  | .ok (.unsupported, _) => (none, .error Peer.unreachable)
  | .ok (.secured, _) => (none, peer.securedReply)
  | .ok (.plain, outgoing) =>
    (if peer.isReading then some outgoing else none, peer.plainReply)

end Listener

end AdminAccess
