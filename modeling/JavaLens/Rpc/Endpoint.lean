import JavaLens.Rpc.Call
import JavaLens.Rpc.Method

/-!
# Endpoints

The server's end of a connection: which calls it takes up in which phase, and how it responds. An
editor connects first, then works, then ends the session and at last the connection.

## Main definitions

* `Rpc.Response` — how the server responds to a call.
* `Rpc.Endpoint` — the phase of the connection and the session.
* `Rpc.Endpoint.step` — what follows from a call.
* `Rpc.Endpoint.converse` — what follows from all that arrives over a connection.
-/

namespace JavaLens.Rpc

/-- Why a request is refused. -/
inductive Refusal where
  /-- The editor has not connected yet. -/
  | notConnected
  /-- The request does not suit the method or the phase of the connection. -/
  | invalidRequest
  | methodNotFound
  | invalidParams
  /-- What arrived is JSON, but neither a call nor an answer. -/
  | malformed
  /-- What arrived is no JSON. -/
  | unreadable
deriving DecidableEq, Repr

namespace Refusal

/-- The number of a refusal. -/
def code : Refusal → Int
  | notConnected => -32002
  | invalidRequest | malformed => -32600
  | methodNotFound => -32601
  | invalidParams => -32602
  | unreadable => -32700

/-- The message of a refusal. -/
def message : Refusal → String
  | notConnected => "Server not initialized"
  | invalidRequest | malformed => "Invalid request"
  | methodNotFound => "Method not found"
  | invalidParams => "Invalid params"
  | unreadable => "Parse error"

end Refusal

/-- How the server responds to a call. -/
inductive Response where
  | none
  | result (id value : Json)
  | refused (id : Json) (cause : Refusal)
  /-- The connection has ended. -/
  | exited

/-- Whether the server reads nothing more after a response: the connection has ended, or what
arrived could not be understood. -/
def Response.isLast : Response → Bool
  | .exited | .refused _ .malformed | .refused _ .unreadable => true
  | _ => false

/-- The phase of a connection. -/
inductive Phase where
  | waiting
  | working
  | shutDown
  | exited
deriving DecidableEq, Repr

/-- The server's end of a connection. -/
structure Endpoint where
  phase : Phase
  session : Session

/-- What follows from a call. -/
structure Outcome where
  endpoint : Endpoint
  response : Response
  published : List Session.Publication

namespace Endpoint

/-- The endpoint before the editor connects. -/
def start (settings : Settings) : Endpoint := ⟨.waiting, .start settings⟩

/-- Nothing follows but a response. -/
def quiet (e : Endpoint) (response : Response) : Outcome := ⟨e, response, []⟩

/-- A request is refused. A notification is dropped. -/
def refuse (e : Endpoint) (call : Call) (cause : Refusal) : Outcome :=
  match call.id with
  | some id => e.quiet (.refused id cause)
  | none => e.quiet .none

/-- The session takes up a message, and its reply goes to the request `id`, if it is one. -/
def deliver (e : Endpoint) (id : Option Json) (message : Session.Message) : Outcome :=
  let outcome := e.session.step message
  let response :=
    match id with
    | some id => Response.result id outcome.reply.toJson
    | none => .none
  ⟨{ e with session := outcome.session }, response, outcome.published⟩

/-- A call of a method that only suits the working phase. -/
def whileWorking (e : Endpoint) (call : Call) (outcome : Outcome) : Outcome :=
  match e.phase with
  | .waiting => e.refuse call .notConnected
  | .working => outcome
  | .shutDown | .exited => e.refuse call .invalidRequest

/-- The parameters of a call, if they have their shape. -/
def paramsOf (call : Call) (shape : Shape) : Option Json := call.params.bind shape.read?

/-- A request for the session, or one that nothing answers. It must have an identifier. -/
def takeRequest (e : Endpoint) (call : Call) (shape : Shape)
    (answer : Option (Json → Session.Message)) : Outcome :=
  match call.id, paramsOf call shape with
  | none, _ => e.quiet .none
  | some _, none => e.refuse call .invalidParams
  | some id, some params =>
    match answer with
    | some message => e.deliver id (message params)
    | none => e.refuse call .methodNotFound

/-- A notification must not have an identifier. -/
def asNotification (e : Endpoint) (call : Call) (outcome : Outcome) : Outcome :=
  if call.id.isSome then e.refuse call .invalidRequest else outcome

/-- A notification for the session, or one that nothing takes note of. -/
def takeNotification (e : Endpoint) (call : Call) (shape : Shape)
    (note : Option (Json → Session.Message)) : Outcome :=
  e.asNotification call <|
    match paramsOf call shape, note with
    | some params, some message => e.deliver none (message params)
    | _, _ => e.quiet .none

/-- The editor connects, once. -/
def connect (e : Endpoint) (call : Call) : Outcome :=
  match e.phase with
  | .waiting =>
    match call.id, paramsOf call .connection with
    | none, _ => e.quiet .none
    | some _, none => e.refuse call .invalidParams
    | some id, some _ => { e with phase := .working }.deliver id .connect
  | _ => e.refuse call .invalidRequest

/-- The editor ends the session, with a request that has no parameters. The phase ends also if the
call is no such request. -/
def shutdown (e : Endpoint) (call : Call) : Outcome :=
  let ended := { e with phase := .shutDown }
  e.whileWorking call <|
    match call.id, call.params with
    | none, _ => ended.quiet .none
    | some _, some _ => ended.refuse call .invalidParams
    | some id, none => ended.deliver id .shutdown

/-- A call of a method that the server does not know. Names that start with a dollar sign are for
optional methods, and stay without a response. -/
def unknown (e : Endpoint) (call : Call) : Outcome :=
  if "$/".isPrefixOf call.method then e.quiet .none else e.refuse call .methodNotFound

/-- What follows from a call of a method. -/
def perform (e : Endpoint) (call : Call) : Method → Outcome
  | .connect => e.connect call
  | .shutdown => e.shutdown call
  | .exit => { e with phase := .exited }.quiet .none
  | .cancel => e.asNotification call (e.quiet .none)
  | .request shape answer => e.whileWorking call (e.takeRequest call shape answer)
  | .notification shape note => e.whileWorking call (e.takeNotification call shape note)

/-- What follows from a call. -/
def step (e : Endpoint) (call : Call) : Outcome :=
  if e.phase = .exited then e.quiet .exited
  else
    match Method.ofName? call.method with
    | some method => e.perform call method
    | none => e.unknown call

/-- What follows from JSON that arrives from the editor. -/
def receive (e : Endpoint) (j : Json) : Outcome :=
  match Incoming.ofJson? j with
  | some (.call call) => e.step call
  | some .answer => e.quiet (if e.phase = .exited then .exited else .none)
  | none => e.quiet (.refused .null .malformed)

/-- What follows from all that arrives over a connection, as far as the server reads it. -/
def converse (e : Endpoint) : List Json → List Outcome
  | [] => []
  | j :: rest =>
    let outcome := e.receive j
    outcome :: if outcome.response.isLast then [] else outcome.endpoint.converse rest

end Endpoint

/-! ## JSON forms -/

/-- The JSON form of a response, unless there is none. -/
def Response.toJson? : Response → Option Json
  | .result id value =>
    some (.object [("jsonrpc", .string "2.0"), ("result", value), ("id", id)])
  | .refused id cause =>
    let error := Json.object [("code", .int cause.code), ("message", .string cause.message)]
    some (.object [("jsonrpc", .string "2.0"), ("error", error), ("id", id)])
  | .none | .exited => Option.none

/-- The JSON form of a publication as a notification to the editor. -/
def publicationCall (p : Session.Publication) : Json :=
  .object [("jsonrpc", .string "2.0"), ("method", .string "textDocument/publishDiagnostics"),
    ("params", p.toJson)]

/-- What is sent to the editor after a call, in order. -/
def Outcome.sent (o : Outcome) : List Json :=
  o.published.map publicationCall ++ o.response.toJson?.toList

end JavaLens.Rpc
