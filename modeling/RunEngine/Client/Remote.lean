import RunEngine.Http.Authorization
import RunEngine.Http.Peer
import RunEngine.Url.Reader
import RunEngine.Wire.Decoding
import RunEngine.Wire.Encoding

/-!
# The client of a remote API

Every operation is one request to a JSON API below a base URL. The API is down when it cannot be
reached or its health check fails. A status other than success is an error with the body as its
message, and a body that is not the expected record is one too.
-/

namespace RunEngine

open Http

/-- A client of the API below a base URL, with the peer that requests to the API arrive at. -/
structure RemoteClient where
  base : String
  apiKey : Option String := none
  peer : Peer := {}
  deriving DecidableEq, Inhabited

namespace RemoteClient

/-- The client of an API; slashes at the end of its URL do not count. -/
def ofUrl (url : String) (apiKey : Option String) (peer : Peer) : RemoteClient :=
  { base := String.ofList (url.toList.reverse.dropWhile (· == '/')).reverse, apiKey, peer }

/-! ## Requests -/

/-- The longest URL that a request may be sent to. -/
def longestUrl : Nat := 65534

/-- What may not stand in the host of a request, though domain names allow it. -/
def unsendable : List Char := ['"', '`', '\x7b', '\x7d']

/-- Whether requests can be sent to a URL. -/
def isSendable (url : Url) : Bool :=
  (url.scheme == "http" || url.scheme == "https") && url.text.utf8ByteSize ≤ longestUrl &&
    !url.host?.any fun host => host.text.any unsendable.contains

/-- The URL of a path, and the header that authorizes a request to it. A key counts for more than a
user that the URL names. -/
def address (c : RemoteClient) (path : String) : Except NetworkFault (Url × Option String) :=
  match Url.read (c.base ++ path) with
  | none => .error (.unsendable none)
  | some url =>
    let bare := url.withoutCredentials
    if url.host?.isNone then .error (.unsendable (some url.text))
    else match c.apiKey.map bearer with
      | some none => .error (.unsendable none)
      | key =>
        if isSendable bare then
          .ok (bare, key.join <|> url.credentials?.map fun (name, word) => basic name word)
        else .error (.unsendable (some bare.text))

/-- Send a request and wait for the response. -/
def exchange (c : RemoteClient) (method path : String) (body : Option Json) :
    Except ClientError Response × RemoteClient :=
  match c.address path with
  | .error fault => (.error (.network fault), c)
  | .ok (url, authorization) =>
    if !c.peer.serves url then (.error (.unreachable (NetworkFault.sending url.text)), c)
    else
      let request : Request := { method, target := url.target, authorization, body }
      let (reply, peer) := c.peer.exchange request
      let answer := match reply with
        | .drop => .error (.network (.dropped url.text))
        | .stall => .error (.unreachable (NetworkFault.sending url.text))
        | .respond status content truncated =>
          if Response.bodiless status then .ok { status, body := some "" }
          else if truncated then .ok { status, body := none }
          else .ok { status, body := some (content.render request) }
      (answer, { c with peer })

/-- The message in the body of a response that is not a success. -/
def messageOf (r : Response) : String :=
  match r.body with
  | none => "unknown error"
  | some text =>
    match text.toList with
    | '\ufeff' :: rest => String.ofList rest
    | _ => text

/-- Send a request that is to succeed. -/
def send (c : RemoteClient) (method path : String) (body : Option Json) :
    Except ClientError Response × RemoteClient :=
  match c.exchange method path body with
  | (.error e, c) => (.error e, c)
  | (.ok response, c) =>
    if response.isSuccess then (.ok response, c)
    else (.error (.api response.status (messageOf response)), c)

/-- The record in the body of a response. -/
def decode {α : Type} (decoder : Decoder α) (r : Response) : Except ClientError α :=
  match r.body with
  | none => .error (.network .truncated)
  | some text =>
    match decoder.ofText text with
    | some value => .ok value
    | none => .error (.decode "the body is not the record that was asked for")

/-- Send a request that is answered with a record. -/
def call {α : Type} (c : RemoteClient) (decoder : Decoder α) (method path : String)
    (body : Option Json) : Except ClientError α × RemoteClient :=
  let (answer, c) := c.send method path body
  (answer.bind (decode decoder), c)

/-! ## Operations -/

/-- Ask the API whether it is well. -/
def connect (c : RemoteClient) : Except ClientError Unit × RemoteClient :=
  match c.send "GET" "/health" none with
  | (.ok _, c) => (.ok (), c)
  | (.error (.api status message), c) =>
    (.error (.unreachable ("health check returned " ++ toString status ++ ": " ++ message)), c)
  | (.error e, c) => (.error e, c)

def createFlowRun (c : RemoteClient) (request : FlowRunRequest) :
    Except ClientError FlowRun × RemoteClient :=
  c.call FlowRun.decode "POST" "/flow_runs/" (some request.toJson)

def readFlowRun (c : RemoteClient) (id : Uuid) : Except ClientError FlowRun × RemoteClient :=
  match c.call FlowRun.decode "GET" ("/flow_runs/" ++ id.toText) none with
  | (.error (.api 404 _), c) => (.error (.notFound "flow run" id), c)
  | answer => answer

def propose (c : RemoteClient) (id : Uuid) (state : State) :
    Except ClientError Answer × RemoteClient :=
  c.call Answer.decode "POST" ("/flow_runs/" ++ id.toText ++ "/set_state")
    (some state.proposalToJson)

def createTaskRun (c : RemoteClient) (request : TaskRunRequest) :
    Except ClientError TaskRun × RemoteClient :=
  c.call TaskRun.decode "POST" "/task_runs/" (some request.toJson)

end RemoteClient

end RunEngine
