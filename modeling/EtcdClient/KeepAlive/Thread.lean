import EtcdClient.KeepAlive.Scheduler
import EtcdClient.Text.Numeral

/-
# Heartbeat threads

The scheduler that a keep-alive session uses when no other is given: one thread for each session,
named after its lease, that runs each heartbeat after its delay. Stopping the thread, by a
shutdown or because nothing holds it any more, drops the heartbeats that have not run, and later
ones are turned away. Attempts are numbered from zero, the ones turned away included.

Source: `SPEC_FULL.md` §4.1 on side effects and §10.3, `TaskScheduler`.
-/

namespace EtcdClient
namespace KeepAlive

/-- What became of one attempt to schedule a heartbeat. -/
inductive Attempt
  | pending (delay : Duration)
  | ran
  | dropped
  deriving DecidableEq

/-- A thread that runs heartbeats. -/
structure Thread where
  lease : Int64
  attempts : List Attempt := []
  stopped : Bool := false

namespace Thread

/-- The words for a heartbeat that is turned away. -/
def rejection : String := "scheduler is shut down"

/-- The name of the thread up to the number that tells threads of one lease apart. -/
def namePart (t : Thread) : String :=
  "lease-" ++ String.ofList (Text.hex t.lease.toUInt64.toNat) ++ "-keep-alive-"

/-- A heartbeat that was accepted, in words. -/
def heartbeatText : String := "ScheduledHeartbeat \x7b .. \x7d"

/-- Schedules a heartbeat: its number if it is accepted. -/
def schedule (t : Thread) (delay : Duration) : Option Nat × Thread :=
  if t.stopped then (none, { t with attempts := t.attempts ++ [.dropped] })
  else (some t.attempts.length, { t with attempts := t.attempts ++ [.pending delay] })

/-- What a pending attempt becomes when it is dropped. -/
def dropped : Attempt → Attempt
  | .pending _ => .dropped
  | a => a

/-- Cancels a heartbeat; one that ran stays as it is. -/
def cancel (t : Thread) (i : Nat) : Thread :=
  { t with attempts := t.attempts.modify i dropped }

/-- Stops the thread: what has not run is dropped. -/
def stop (t : Thread) : Thread :=
  { t with attempts := t.attempts.map dropped, stopped := true }

/-- Waits for at most `patience` until a heartbeat has run or was dropped: whether it ran. -/
def await (t : Thread) (patience : Duration) (i : Nat) : Bool × Thread :=
  match t.attempts[i]? with
  | some (.pending delay) =>
    if delay ≤ patience then (true, { t with attempts := t.attempts.set i .ran }) else (false, t)
  | some .ran => (true, t)
  | _ => (false, t)

end Thread
end KeepAlive
end EtcdClient
