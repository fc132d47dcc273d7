import EtcdClient.Duration

/-
# Heartbeat schedulers

A scheduler runs each heartbeat once after its delay, unless it is cancelled before. It accepts
heartbeats until it is shut down, and may turn one away before that. A heartbeat that was already
on its way when it was cancelled can still run, so cancelling does not undo a firing.

The delay follows the time to live that the server reported: half of it, rounded toward zero, and
one second, never less than none.

Source: `SPEC_FULL.md` §10.3, `HeartbeatScheduler` and `ScheduledHeartbeat`, and §10.4,
`heartbeat_delay`.
-/

namespace EtcdClient

/-- The delay of the next heartbeat, for a time to live in seconds. -/
def heartbeatDelay (ttl : Int64) : Duration := .ofSeconds (ttl.toInt.tdiv 2 + 1).toNat

/-- A heartbeat that a scheduler accepted. -/
structure Heartbeat where
  delay : Duration
  cancelled : Bool := false
  fired : Bool := false
  deriving DecidableEq

/-- The heartbeats that a scheduler accepted, in order. -/
structure Scheduler where
  heartbeats : List Heartbeat := []
  down : Bool := false
  /-- Turns heartbeats away without being down. -/
  refusing : Bool := false
  deriving DecidableEq

namespace Scheduler

/-- A heartbeat that is handed in now is taken. -/
def accepts (s : Scheduler) : Bool := !s.down && !s.refusing

/-- Takes a heartbeat as the last one. -/
def push (s : Scheduler) (delay : Duration) : Scheduler :=
  { s with heartbeats := s.heartbeats ++ [{ delay }] }

/-- Cancels the heartbeat with a number. -/
def cancel (s : Scheduler) (i : Nat) : Scheduler :=
  { s with heartbeats := s.heartbeats.modify i fun h => { h with cancelled := true } }

/-- Notes that the heartbeat with a number ran. -/
def markFired (s : Scheduler) (i : Nat) : Scheduler :=
  { s with heartbeats := s.heartbeats.modify i fun h => { h with fired := true } }

/-- The heartbeat with a number has not run yet. -/
def canFire (s : Scheduler) (i : Nat) : Bool :=
  match s.heartbeats[i]? with
  | some h => !h.fired
  | none => false

/-- The number of the last heartbeat that is neither cancelled nor has run. -/
def pending? (s : Scheduler) : Option Nat :=
  (s.heartbeats.zipIdx.filter fun (h, _) => !h.cancelled && !h.fired).getLast?.map (·.2)

/-- From now on every heartbeat is turned away. -/
def shutdown (s : Scheduler) : Scheduler := { s with down := true }

end Scheduler
end EtcdClient
