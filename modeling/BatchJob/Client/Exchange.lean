import BatchJob.Error
import BatchJob.Json.Reader
import BatchJob.Json.Record

set_option autoImplicit false

/-!
Exchanges with a remote service: a request goes out and a reply comes back, or the service is not
reached. The settings say where the service stands and how long it is waited for. Its replies are
given as a list; after the last one it refuses every request.
-/

namespace BatchJob

/-- The place of a service. Spans of time are in milliseconds. -/
structure Endpoint where
  baseUrl : String
  bearerToken : Option String := none
  requestTimeout : UInt64 := 30000
  pollInterval : UInt64 := 10000
  deriving DecidableEq

namespace Endpoint

def ofJson? (j : Json) : Option Endpoint := do
  let f ← j.fields? ["base_url", "bearer_token", "request_timeout", "poll_interval"]
  some {
    baseUrl := ← f.required "base_url" Json.text?
    bearerToken := ← f.optional "bearer_token" none (Json.nullable? Json.text?)
    requestTimeout := ← f.optional "request_timeout" 30000 Json.word64?
    pollInterval := ← f.optional "poll_interval" 10000 Json.word64? }

def parse? (text : String) : Option Endpoint := (Json.parse? text).bind ofJson?

/-- The endpoint as JSON, without its secret. -/
def toJson (e : Endpoint) : Json :=
  .record [("base_url", .text e.baseUrl), ("request_timeout", .nat e.requestTimeout.toNat),
    ("poll_interval", .nat e.pollInterval.toNat)]

end Endpoint

inductive Method where
  | get
  | post
  deriving DecidableEq

def Method.name : Method → String
  | get => "GET"
  | post => "POST"

structure HttpRequest where
  method : Method
  url : String
  query : List (String × String) := []
  headers : List (String × String)
  body : Option Json := none

inductive Reply where
  | unreachable
  | answer (status : Nat) (body : String)
  deriving DecidableEq

/-- How a service refuses requests after its last reply. -/
inductive Refusal where
  | unreachable
  | broken (body : String)
  deriving DecidableEq

def Refusal.reply : Refusal → Reply
  | unreachable => .unreachable
  | broken body => .answer 500 body

structure Replies where
  left : List Reply
  refusal : Refusal

/-- The result of some exchanges, the requests that reached the service, and the replies left. -/
structure Exchanged (α : Type) where
  result : α
  requests : List HttpRequest
  replies : Replies

namespace Reply

/-- The message in the body of a refusal, if it has one. -/
def refusalMessage? (body : String) : Option String :=
  let message? (j : Json) : Option String := do
    let f ← j.fields? ["message"]
    f.optional "message" "" Json.text?
  let envelope? (j : Json) : Option (Option String) := do
    let f ← j.fields? ["error"]
    f.absentable "error" message?
  (((Json.parse? body).bind envelope?).bind id).filter (· ≠ "")

/-- The error of an answer with an error status. -/
def serviceError (status : Nat) (body : String) : JobError :=
  .service ⟨status, (refusalMessage? body).getD ("HTTP " ++ toString status), body⟩

/-- What a reply to a request says. -/
def decode {α : Type} (url : String) (read : Json → Option α) : Reply → Except JobError α
  | .unreachable => .error (.transport (.unreachable url))
  | .answer status body =>
    if 200 ≤ status ∧ status < 300 then
      match (Json.parse? body).bind read with
      | some a => .ok a
      | none => .error (.transport .undecodable)
    else .error (serviceError status body)

end Reply

structure Client where
  /-- The address of the service, without slashes at its end. -/
  baseUrl : String
  headers : List (String × String)
  deriving DecidableEq

namespace Client

def userAgent : String := "jobflow/0.1.0"

/-- Whether a token can stand in a header: no control characters but tabs. -/
def isHeaderText (token : String) : Bool :=
  token.toList.all fun c => (0x20 ≤ c.toNat && c.toNat != 0x7f) || c == '\t'

/-- The client of an endpoint, if its token can be sent. -/
def ofEndpoint (e : Endpoint) : Except ConfigError Client :=
  let baseUrl := String.ofList (Text.dropEndWhile (· == '/') e.baseUrl.toList)
  let plain := [("content-type", "application/json"), ("user-agent", userAgent)]
  match e.bearerToken with
  | none => .ok ⟨baseUrl, plain⟩
  | some token =>
    if isHeaderText token then .ok ⟨baseUrl, ("authorization", "Bearer " ++ token) :: plain⟩
    else .error (.invalid .bearerToken)

def url (c : Client) (path : String) : String :=
  c.baseUrl ++ "/" ++ String.ofList (path.toList.dropWhile (· == '/'))

def getRequest (c : Client) (path : String) (query : List (String × String)) : HttpRequest :=
  { method := .get, url := c.url path, query := query, headers := c.headers }

def postRequest (c : Client) (path : String) (body : Json) : HttpRequest :=
  { method := .post, url := c.url path, headers := c.headers, body := some body }

/-- The requests that a service gets to see when it gives this reply. -/
def received (request : HttpRequest) : Reply → List HttpRequest
  | .unreachable => []
  | .answer .. => [request]

def nextReply (r : Replies) : Reply × Replies :=
  match r.left with
  | [] => (r.refusal.reply, r)
  | reply :: left => (reply, { r with left := left })

def exchange {α : Type} (request : HttpRequest) (read : Json → Option α) (r : Replies) :
    Exchanged (Except JobError α) :=
  let (reply, rest) := nextReply r
  ⟨Reply.decode request.url read reply, received request reply, rest⟩

end Client

end BatchJob
