import EtcdClient.Watch.Session

/-
# Runs of a watch session

A run is a watch session together with its receiving task, its start and everything that its
surroundings see of it. Everything that arrives is handed to the handler in order, before and
after the start is decided and also for a while after the session was closed:

| what happens | the receiving task |
| --- | --- |
| the start fails | stops at once |
| close from where tasks run | goes on for `closeGrace` |
| close from elsewhere | stops at once |
| drop | stops at once |

Only the first close counts. The start is decided once, by the first of these: the stream cannot
be opened, a response flagged created arrives, the stream fails or ends, the timeout is over.

Source: `SPEC_FULL.md` §4.2, §4.3 and §10.4; `start` of `WatchSentinel`, the callbacks of
`WatchObserver`, the receive loop that calls them, `close` with `CLOSE_GRACE`, `abort`, and the drop
of the sentinel.
-/

namespace EtcdClient
namespace Watch

/-- How long a closed session goes on receiving. -/
def closeGrace : Duration := .ofSeconds 5

/-- A session and what is seen of it. -/
structure Run where
  session : Session
  /-- The receiving task holds the stream. -/
  receiving : Bool := true
  start : Start := .waiting
  /-- The caller has not dropped the session. -/
  held : Bool := true
  /-- The first of the outcomes that the receiving task found, a watch id or an error. -/
  outcome : Option (Result Int64) := none
  timeout : Option Duration := none
  clock : Duration := ⟨0⟩
  /-- When the receiving task of a closed session stops. -/
  graceEnd : Option Duration := none
  handler : Behaviour := .record
  callbacks : List (Callback WatchResponse) := []
  log : List LogEntry := []

/-- What the surroundings of a session do. -/
inductive Step
  | arrive (items : List (Arrival WatchResponse))
  | advance (d : Duration)
  | close
  /-- A close from where no tasks run. -/
  | closeElsewhere
  | drop
  /-- The server stops reading. -/
  | hangUp
  /-- The handler behaves differently from now on. -/
  | setHandler (b : Behaviour)

namespace Run

/-- The caller has the session in hand. -/
def handedOut (r : Run) : Bool := r.held && r.start.isReady

/-- The sending side has ended, as the server sees it. -/
def sendEnded (r : Run) : Bool := r.session.listening && r.session.closed

/-- Notes an outcome unless there is one already. -/
def decide (r : Run) (o : Result Int64) : Run := { r with outcome := r.outcome <|> some o }

/-- Closes the session with a time of grace. -/
def close (r : Run) : Run :=
  if r.session.closed then r
  -- The receiving task goes on until `settle` finds the time of grace over.
  else { r with session := r.session.halfClose, graceEnd := some (r.clock + closeGrace) }

/-- Closes the session without one. -/
def closeElsewhere (r : Run) : Run :=
  if r.session.closed then r
  -- Without tasks nothing can wait for the time of grace to pass.
  else { r with session := r.session.halfClose, receiving := false }

/-- Closes the session and stops receiving, also if it was closed before. -/
def abort (r : Run) : Run :=
  { r with session := r.session.halfClose, receiving := false }

/-- Tells the handler, which may close the session. -/
def tell (r : Run) (listener : Listener) (c : Callback WatchResponse) : Run :=
  let told := { r with
    callbacks := r.callbacks ++ [c]
    log := r.log ++ LogEntry.ofCall listener r.handler }
  match r.handler with
  | .close => if r.handedOut then told.close else told
  | _ => told

/-- The server ended the stream before it was of use. -/
def streamEnded : ClientError := .streamClosed "watch stream ended before the watch was created"

/-- The receiving task takes what arrived, unless it has ended. -/
def receive (r : Run) (a : Arrival WatchResponse) : Run :=
  if r.receiving then
    match a with
    | .response response =>
      -- Only this flag is read, so a response that creates and cancels at once counts as created.
      let r := if response.created then r.decide (.ok response.watchId) else r
      r.tell .watchResponse (.response response)
    | .failure s =>
      let r := { r with log := r.log ++ [LogEntry.watchFailed (.grpc s)] }.decide (.error (.grpc s))
      { r.tell .watchError (.error (.grpc s)) with receiving := false }
    | .finish =>
      { (r.decide (.error streamEnded)).tell .watchCompletion .completed with receiving := false }
  else r

/-- The start fails. -/
def giveUp (r : Run) (e : ClientError) : Run :=
  { r.abort with start := .failed e, held := false }

/-- Ends the start if it can be decided. -/
def decideStart (r : Run) : Run :=
  match r.start with
  | .waiting =>
    match r.outcome with
    | some (.ok id) =>
      -- From here on closing the session asks for the cancellation of this watch.
      { r with start := .ready id, session := { r.session with watchId := some id } }
    | some (.error e) => r.giveUp e
    | none =>
      -- The timeout is looked at only as long as there is no outcome.
      match r.timeout with
      | some t => if t ≤ r.clock then r.giveUp (.handshakeTimeout "watch creation" t) else r
      | none => r
  | _ => r

/-- The time of grace is over. -/
def graceOver (r : Run) : Bool :=
  match r.graceEnd with
  | some t => t ≤ r.clock
  | none => false

/-- Lets everything happen that happens by itself. -/
def settle (r : Run) : Run :=
  let r := r.decideStart
  { r with receiving := r.receiving && !r.graceOver }

/-- Starts a session: the watch is requested, then the stream is opened. -/
def begin (create : WatchCreateRequest) (timeout : Option Duration) (handler : Behaviour)
    (openFailure : Option Status) : Run :=
  let r : Run := { session := Session.send {} (.watchCreate create), timeout, handler }
  match openFailure with
  | some s => r.giveUp (.grpc s)
  | none => r.settle

/-- What a step does before everything else follows. -/
def act (r : Run) : Step → Run
  | .arrive items => items.foldl receive r
  | .advance d => { r with clock := r.clock + d }
  | .close => if r.handedOut then r.close else r
  | .closeElsewhere => if r.handedOut then r.closeElsewhere else r
  -- A drop does not wait, not even for the time of grace that an earlier close left.
  | .drop => if r.handedOut then { r.abort with held := false } else r
  | .hangUp => { r with session := { r.session with listening := false } }
  | .setHandler b => { r with handler := b }

/-- One step and what follows from it. -/
def step (r : Run) (s : Step) : Run := (r.act s).settle

/-- The session in words, for the caller that has it in hand. -/
def text? (r : Run) : Option String :=
  match r.start with
  | .ready id =>
    if r.held then
      some ("WatchSentinel \x7b watch_id: " ++ Text.signedText id.toInt ++
        ", closed: " ++ (if r.session.closed then "true" else "false") ++ " \x7d")
    else none
  | _ => none

end Run
end Watch
end EtcdClient
