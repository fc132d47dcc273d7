import EtcdClient.KeepAlive.Session

/-
# Runs of a keep-alive session

A run is a session together with its receiving task, its start and everything that its
surroundings see of it. Its steps are what the surroundings do: the server, the clock, the
scheduler and the callers. After each step all that can happen by itself has happened: what
arrived is handled, the start is decided if it can be, and the receiving task of a closed session
is stopped.

The start is decided once, by the first of these:

| event | outcome |
| --- | --- |
| the stream cannot be opened | its status |
| a response with time to live left | ready |
| a response without | `leaseNotFound` |
| the stream fails | its status |
| the stream ends | `streamClosed` |
| the timeout is over | `handshakeTimeout` |

Handling a response schedules the next heartbeat before the handler is told. If that is refused
while the session is open, the handler is told of the refusal instead and the task ends.

Source: `SPEC_FULL.md` §4.1, §4.3 and §10.4; `start` and `handshake` of `KeepAliveSentinel`, the
callbacks `on_next`, `on_error` and `on_completed` of `KeepAliveObserver`, the receive loop that
calls them, and the drop of the sentinel.
-/

namespace EtcdClient
namespace KeepAlive

/-- A session and what is seen of it. -/
structure Run where
  session : Session
  /-- The receiving task holds the stream. -/
  receiving : Bool := true
  start : Start := .waiting
  /-- The session is held by its start, then by the caller it was handed to. -/
  held : Bool := true
  /-- The first of the outcomes that the receiving task found, a time to live or an error. -/
  outcome : Option (Result Int64) := none
  timeout : Option Duration := none
  clock : Duration := ⟨0⟩
  /-- What the handler does, if there is one. -/
  handler : Option Behaviour := some .record
  callbacks : List (Callback KeepAliveResponse) := []
  log : List LogEntry := []

/-- What the surroundings of a session do. -/
inductive Step
  | arrive (items : List (Arrival KeepAliveResponse))
  | advance (d : Duration)
  /-- The heartbeat with a number runs. -/
  | fire (i : Nat)
  | shutdownScheduler
  /-- The scheduler begins or ends to turn heartbeats away. -/
  | refuse (b : Bool)
  | close
  | drop
  /-- The server stops reading. -/
  | hangUp
  /-- The handler behaves differently from now on. -/
  | setHandler (b : Behaviour)

namespace Run

/-- The caller has the session in hand. -/
def handedOut (r : Run) : Bool := r.held && r.start.isReady

/-- Nothing holds the session any more, so its sending side is gone and heartbeats do nothing. -/
def released (r : Run) : Bool := !r.held && !r.receiving

/-- The sending side has ended, as the server sees it. -/
def sendEnded (r : Run) : Bool := r.session.listening && (r.session.closed || r.released)

/-- Notes an outcome unless there is one already. -/
def decide (r : Run) (o : Result Int64) : Run := { r with outcome := r.outcome <|> some o }

/-- Tells the handler, which may close the session. -/
def tell (r : Run) (listener : Listener) (c : Callback KeepAliveResponse) : Run :=
  match r.handler with
  | none => r
  | some b => { r with
      callbacks := r.callbacks ++ [c]
      log := r.log ++ LogEntry.ofCall listener b
      session :=
        match b with
        -- Nobody has the session to close it with before it is handed out.
        | .close => if r.handedOut then r.session.close else r.session
        | _ => r.session }

/-- The receiving task ends with an error. -/
def fail (r : Run) (e : ClientError) : Run :=
  let logged := { r with log := r.log ++ [LogEntry.keepAliveFailed r.session.lease e] }
  { (logged.decide (.error e)).tell .keepAliveError (.error e) with receiving := false }

/-- The server ended the stream before it was of use. -/
def streamEnded : ClientError := .streamClosed "keep-alive stream ended before the first response"

/-- The receiving task handles a response. -/
def handle (r : Run) (response : KeepAliveResponse) : Run :=
  -- The time to live decides the start, also if the heartbeat that should follow is turned away.
  let r := r.decide (.ok response.ttl)
  match r.session.rearm response.ttl with
  | (.ok (), s) => { r with session := s }.tell .keepAliveResponse (.response response)
  | (.error e, s) => { r with session := s }.fail e

/-- The receiving task takes what arrived, unless it has ended or the session is closed. -/
def receive (r : Run) (a : Arrival KeepAliveResponse) : Run :=
  -- What finds the session closed is passed over: nothing is scheduled and the handler is not told.
  if r.receiving && !r.session.closed then
    match a with
    | .response response => r.handle response
    | .failure s => r.fail (.grpc s)
    -- Only a start that still waits hears of the end; the handler does not.
    | .finish => { r.decide (.error streamEnded) with receiving := false }
  else r

/-- The start fails: the session is closed and let go. -/
def giveUp (r : Run) (e : ClientError) : Run :=
  { r with start := .failed e, session := r.session.close, held := false }

/-- Ends the start if it can be decided. -/
def decideStart (r : Run) : Run :=
  match r.start with
  | .waiting =>
    -- An outcome counts before the timeout, also where a step brings both.
    match r.outcome with
    | some (.ok ttl) =>
      -- A server answers for a lease that it does not know with no time to live.
      if 0 < ttl then { r with start := .ready r.session.lease }
      else r.giveUp (.leaseNotFound r.session.lease)
    | some (.error e) => r.giveUp e
    | none =>
      match r.timeout with
      | some t =>
        if t ≤ r.clock then r.giveUp (.handshakeTimeout "the first keep-alive response" t) else r
      | none => r
  | _ => r

/-- Lets everything happen that happens by itself. -/
def settle (r : Run) : Run :=
  let r := r.decideStart
  { r with receiving := r.receiving && !r.session.closed }

/-- Starts a session: the first heartbeat is sent, then the stream is opened. -/
def begin (lease : Int64) (scheduler : Scheduler) (timeout : Option Duration)
    (handler : Option Behaviour) (openFailure : Option Status) : Run :=
  let r : Run := { session := Session.beat { lease, scheduler }, timeout, handler }
  match openFailure with
  | some s => { r.giveUp (.grpc s) with receiving := false }
  | none => r.settle

/-- What a step does before everything else follows. -/
def act (r : Run) : Step → Run
  | .arrive items => items.foldl receive r
  | .advance d => { r with clock := r.clock + d }
  | .fire i =>
    if r.session.scheduler.canFire i then
      let s := { r.session with scheduler := r.session.scheduler.markFired i }
      -- A firing keeps nothing alive: if the session is gone by then, it sends nothing.
      { r with session := if r.released then s else s.beat }
    else r
  | .shutdownScheduler =>
    { r with session := { r.session with scheduler := r.session.scheduler.shutdown } }
  | .refuse b =>
    { r with session := { r.session with scheduler := { r.session.scheduler with refusing := b } } }
  | .close => if r.handedOut then { r with session := r.session.close } else r
  | .drop =>
    if r.handedOut then { r with
      held := false
      log :=
        if r.session.closed then r.log
        else r.log ++ [LogEntry.keepAliveDropped r.session.lease] }
    else r
  | .hangUp => { r with session := { r.session with listening := false } }
  | .setHandler b => { r with handler := r.handler.map fun _ => b }

/-- One step and what follows from it. -/
def step (r : Run) (s : Step) : Run := (r.act s).settle

/-- The session in words, for the caller that has it in hand. -/
def text? (r : Run) : Option String :=
  if r.handedOut then
    some ("KeepAliveSentinel \x7b lease_id: " ++ Text.signedText r.session.lease.toInt ++
      ", closed: " ++ (if r.session.closed then "true" else "false") ++ " \x7d")
  else none

end Run
end KeepAlive
end EtcdClient
