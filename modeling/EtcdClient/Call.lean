import EtcdClient.Operation
import EtcdClient.Token
import EtcdClient.Wire.Decoding

/-
# Calls

A client runs an operation by sending its request once and taking the reply as the outcome. An
operation that fails a check sends nothing. The caller takes the outcome itself or hands in a
handler that is told of it: once of the response or the error, then of the end.

Source: `SPEC_FULL.md` §10.3, `UnaryCall` and `ResponseDispatch` with `blocking`, `with_callback`
and `ResponseCallback`; every operation goes through one function, `unary`. What the transport makes
of a reply is a parameter (`Client.run`). `Client.call` is the case in which it decodes the reply as
`Reply.result` says, which puts no bound on the size of a reply.
-/

namespace EtcdClient

/-- What a handler is told. -/
inductive Callback (ρ : Type)
  | response (r : ρ)
  | error (e : ClientError)
  | completed

/-- What a server sends back for one request. -/
inductive Reply
  | message (m : Message)
  | encoded (b : Bytes)
  | status (s : Status)
  /-- Success without a message. -/
  | missing

/-- What the transport makes of a reply. A status of success comes without a message. -/
def Reply.result (schema : Schema) : Reply → Except Status Message
  | message m => .ok m
  | encoded b =>
    match schema.decode? b with
    | some m => .ok m
    | none => .error .undecodable
  | status s => .error (if s.code = .ok then .missingReply else s)
  | missing => .error .missingReply

/-- The outcome that a reply means. -/
def Reply.outcome (schema : Schema) (r : Reply) : Result Message :=
  (r.result schema).mapError .grpc

/-- A request with its metadata. -/
structure Sent where
  request : Request
  metadata : Metadata

/-- What a client knows and how long it waits for sessions. -/
structure Client where
  token : Option Token := none
  capabilities : Capabilities := .unknown
  handshakeTimeout : Option Duration := none

namespace Client

/-- A request as the client sends it. -/
def send (c : Client) (r : Request) : Sent := ⟨r, Metadata.attach [] c.token⟩

/-- Runs an operation: what is sent, and the outcome. The transport is what hands one request to the
server and comes back with the message of the reply or with a status. -/
def run (c : Client) (op : Operation) (transport : Sent → Except Status Message) :
    List Sent × Result Message :=
  match op.check c.capabilities with
  | .error e => ([], .error e)
  | .ok () =>
    let sent := c.send op.request
    ([sent], (transport sent).mapError .grpc)

/-- Runs an operation against a server, with a transport that makes of its reply what it means. -/
def call (c : Client) (op : Operation) (server : Sent → Reply) : List Sent × Result Message :=
  c.run op fun sent => (server sent).result op.request.reply

end Client

/-- What a handler is told of an outcome. -/
def Callback.ofOutcome {ρ : Type} : Result ρ → List (Callback ρ)
  | .ok r => [.response r, .completed]
  | .error e => [.error e, .completed]

end EtcdClient
