import RunEngine.Json.Printer
import RunEngine.Url.Basic

/-!
# The other end of the wire

Requests as they arrive at an address, and a `Peer` that answers them from a list of replies, one
for each request, and remembers what it was asked. Once its replies are used up it reports an error.
-/

namespace RunEngine.Http

/-- A request as it arrives. -/
structure Request where
  method : String
  target : String
  authorization : Option String := none
  /-- The body, which is JSON whenever there is one. -/
  body : Option Json := none
  deriving DecidableEq

/-- The media type of a request's body. -/
def Request.contentType (r : Request) : Option String := r.body.map fun _ => "application/json"

/-- A response as it is received. -/
structure Response where
  status : Nat
  /-- The body, unless it breaks off. -/
  body : Option String
  deriving DecidableEq

namespace Response

def isSuccess (r : Response) : Bool := 200 ≤ r.status && r.status < 300

/-- Whether responses of a status have no body. -/
def bodiless (status : Nat) : Bool := status == 204 || status == 304

end Response

/-- The body a peer sends. -/
inductive Content where
  | text (body : String)
  /-- Accept the state that the request proposes. -/
  | acceptProposal
  deriving DecidableEq

/-- How a peer deals with a request. -/
inductive Reply where
  /-- It closes the connection. -/
  | drop
  /-- It stays silent until the client gives up. -/
  | stall
  | respond (status : Nat) (content : Content) (truncated : Bool)
  deriving DecidableEq

/-- The text of a body sent in reply to a request. -/
def Content.render (r : Request) : Content → String
  | .text body => body
  | .acceptProposal =>
    let state := (r.body.bind (Json.member? "state")).getD .null
    (Json.object [("status", .string "accept"), ("state", state)]).compact

/-- The peer at one address. -/
structure Peer where
  host : Url.Host := .v4 0x7F000001
  port : Nat := 4200
  /-- The replies that are left. -/
  replies : List Reply := []
  /-- The requests that arrived, in order. -/
  requests : List Request := []
  deriving DecidableEq, Inhabited

namespace Peer

/-- The reply once there are no others. -/
def exhausted : Reply := .respond 500 (.text "script exhausted") false

/-- A peer that no URL leads to, since every URL has a host. -/
def nobody : Peer := { host := .name "" }

/-- The address that a host is looked up as. The name `localhost` stands for the one at hand. -/
def lookUp (host : Url.Host) : Url.Host :=
  if host = .name "localhost" then .v4 0x7F000001 else host

/-- Whether a URL leads to this peer. -/
def serves (p : Peer) (url : Url) : Bool :=
  url.scheme == "http" && url.host?.map lookUp == some p.host && url.port? == some p.port

/-- Take in a request and reply to it. -/
def exchange (p : Peer) (r : Request) : Reply × Peer :=
  let (reply, replies) := match p.replies with
    | [] => (exhausted, [])
    | reply :: rest => (reply, rest)
  (reply, { p with replies, requests := p.requests ++ [r] })

end Peer

end RunEngine.Http
