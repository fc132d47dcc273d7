import EtcdClient.KeepAlive.Response
import EtcdClient.KeepAlive.Scheduler
import EtcdClient.Session.Basic

/-
# The state of a keep-alive session

What a keep-alive session consists of, and the steps that its parts take on it. Timers, the
receiving task and any number of callers take these steps in any order, each of them at once:

| step | taken by | effect while the session is open |
| --- | --- | --- |
| `beat` | a timer that fires, and the start | a heartbeat is sent |
| `rearm` | the receiving task | the next heartbeat is scheduled in place of the one before |
| `close` | any caller | the heartbeat is cancelled, the scheduler is shut down, sending ends |

A closed session stays closed, and then no step changes anything but the scheduler's own record.

Source: `SPEC_FULL.md` §4.1, §5 and §10.4; `send_heartbeat`, `rearm` and `close` of
`KeepAliveShared`, each under the session's one lock.
-/

namespace EtcdClient
namespace KeepAlive

/-- A keep-alive session. -/
structure Session where
  lease : Int64
  closed : Bool := false
  /-- The number of the heartbeat that is due next. -/
  scheduled : Option Nat := none
  /-- The sending side is open. -/
  sending : Bool := true
  scheduler : Scheduler := {}
  /-- The server reads what is sent. -/
  listening : Bool := true
  /-- The requests that the server read. -/
  requests : List Request := []

namespace Session

/-- Sends a heartbeat, unless the session is closed. -/
def beat (s : Session) : Session :=
  -- A server that has hung up makes no error: the heartbeat is lost without a word.
  if s.closed || !s.sending || !s.listening then s
  else { s with requests := s.requests ++ [.leaseKeepAlive s.lease] }

/-- The scheduler after it accepted the next heartbeat in place of the one before. -/
def replaceHeartbeat (s : Session) (delay : Duration) : Scheduler :=
  match s.scheduled with
  -- The new heartbeat is in before the old one is cancelled, so a refusal leaves the old one alone.
  | some i => (s.scheduler.push delay).cancel i
  | none => s.scheduler.push delay

/-- Schedules the next heartbeat. A refusal is an error only while the session is open. -/
def rearm (s : Session) (ttl : Int64) : Result Unit × Session :=
  if s.scheduler.accepts then
    (.ok (), { s with
      scheduler := s.replaceHeartbeat (heartbeatDelay ttl)
      scheduled := some s.scheduler.heartbeats.length })
  -- Closing has shut the scheduler down, so after it a refusal is what is expected.
  else if s.closed then (.ok (), s)
  else (.error (.schedulerRejected s.lease), s)

/-- The scheduler of a session that is closed. -/
def stopHeartbeats (s : Session) : Scheduler :=
  match s.scheduled with
  | some i => (s.scheduler.cancel i).shutdown
  | none => s.scheduler.shutdown

/-- Closes the session; a closed one stays as it is. -/
def close (s : Session) : Session :=
  if s.closed then s
  else { s with
    closed := true
    scheduled := none
    sending := false
    scheduler := s.stopHeartbeats }

end Session
end KeepAlive
end EtcdClient
