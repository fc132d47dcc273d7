import EtcdClient.Call

/-
# Sessions

A session is one stream in both directions with a handler that is told what arrives. It is started
by a first request and becomes ready with the first response that says so. What follows is shared
by keep-alive and watch sessions: what can arrive, how a handler behaves, how a start ends, and
what is logged.

Source: `SPEC_FULL.md` §4.3 and §10.4; `Handshake`, `await_handshake`, `spawn_receive_loop`,
`ResponseObserver` and `isolate`.
-/

namespace EtcdClient

/-- What arrives on the stream of a session. -/
inductive Arrival (ρ : Type)
  | response (r : ρ)
  | failure (s : Status)
  | finish

/-- How a status ends a stream: with success it is at its end, with anything else it fails. -/
def Arrival.ofStatus {ρ : Type} (s : Status) : Arrival ρ :=
  if s.code = .ok then .finish else .failure s

/-- What a handler panics with, as far as it is logged. The value is dropped after that, and here it
is one that can be dropped without another panic. -/
inductive Payload
  | literal (s : String)
  | text (s : String)
  /-- A value that is no text. -/
  | other

/-- The words of a payload. -/
def Payload.message : Payload → String
  | .literal s => s
  | .text s => s
  | .other => "non-string panic payload"

/-- What a handler does after it has noted what it is told. -/
inductive Behaviour
  | record
  | panic (payload : Payload)
  /-- Closes the session, once it has been handed out. -/
  | close

/-- The payload that a behaviour panics with. -/
def Behaviour.payload? : Behaviour → Option Payload
  | .panic p => some p
  | _ => none

/-- How far the start of a session is. -/
inductive Start
  | waiting
  /-- The session was handed out under a number. -/
  | ready (id : Int64)
  | failed (e : ClientError)

namespace Start

/-- The start is not decided. -/
def isWaiting : Start → Bool
  | waiting => true
  | _ => false

/-- The session was handed out. -/
def isReady : Start → Bool
  | ready _ => true
  | _ => false

end Start

/-- The part of a handler that was called. -/
inductive Listener
  | keepAliveResponse
  | keepAliveError
  | watchResponse
  | watchError
  | watchCompletion
  deriving DecidableEq

/-- The part of a handler in words. -/
def Listener.text : Listener → String
  | .keepAliveResponse => "keep-alive response handler"
  | .keepAliveError => "keep-alive error handler"
  | .watchResponse => "watch response handler"
  | .watchError => "watch error handler"
  | .watchCompletion => "watch completion handler"

/-- What a session logs. -/
inductive LogEntry
  | keepAliveFailed (lease : Int64) (e : ClientError)
  | keepAliveDropped (lease : Int64)
  | watchFailed (e : ClientError)
  | panicked (listener : Listener) (payload : Payload)

namespace LogEntry

/-- A panic is an error, all else a warning. -/
def level : LogEntry → String
  | panicked _ _ => "ERROR"
  | _ => "WARN"

/-- What an entry says. -/
def message : LogEntry → String
  | keepAliveFailed lease e =>
    "Lease " ++ Text.hexText lease ++ " keep-alive failed: " ++ e.message
  | keepAliveDropped lease =>
    "Keep-alive of lease " ++ Text.hexText lease ++ " dropped without close, heartbeats continue"
  | watchFailed e => "Watch stream failed: " ++ e.message
  | panicked listener payload => listener.text ++ " panicked: " ++ payload.message

/-- The level and what the entry says. -/
def text (l : LogEntry) : String := l.level ++ " " ++ l.message

/-- The entry for a call of a handler, if it panics. -/
def ofCall (listener : Listener) (b : Behaviour) : List LogEntry :=
  match b.payload? with
  | some p => [panicked listener p]
  | none => []

end LogEntry
end EtcdClient
