import EtcdClient.Proofs.KeepAlive.Cadence
import EtcdClient.Proofs.KeepAlive.Delivery
import EtcdClient.Proofs.Watch.Requests

/-
# A start that fails leaves nothing behind

A start can fail at five points, and at each of them something else has been set up:

| the start fails with | what was set up |
| --- | --- |
| a stream that cannot be opened | the first request |
| a failure, the end of the stream | the receiving task, which has just ended |
| the timeout | the receiving task, which still holds the handler |
| no time to live left (keep-alive) | the receiving task and a heartbeat |

`Abandoned` is what is left in every case: a closed session that has sent its first request and
nothing else, without a task, and for keep-alive without a live heartbeat. A start that is not
decided has heard nothing, so nothing was scheduled that could have fired before
(`KeepAlive.Run.Tentative`). Since a start that failed has failed for good, a run that is abandoned
stays so.

Source: `SPEC_FULL.md` §10.4: failed construction closes the session explicitly.
-/

namespace EtcdClient

namespace KeepAlive
namespace Run

/-- What a failed start leaves of a keep-alive session. -/
structure Abandoned (lease : Int64) (r : Run) : Prop where
  closed : r.session.closed = true
  requests_eq : r.session.requests = [.leaseKeepAlive lease]
  requests_ended : r.requestsEnded = true
  down : r.session.scheduler.down = true
  cancelled : ∀ b ∈ r.session.scheduler.heartbeats, b.cancelled = true
  stopped : r.receiving = false
  /-- Nobody has the session in hand. -/
  let_go : r.held = false

/-! ### Nothing is scheduled before something arrives -/

/-- What arrives first is noted before anything is scheduled for it, so a start without an outcome
has scheduled nothing. -/
theorem receive_unarmed {r : Run} (h : r.outcome = none → r.session.delays = [])
    (a : Arrival KeepAliveResponse) (hnone : (r.receive a).outcome = none) :
    (r.receive a).session.delays = [] := by
  rw [receive_outcome] at hnone
  cases htakes : r.receiving && !r.session.closed with
  | true =>
    rw [htakes, if_pos rfl] at hnone
    cases ho : r.outcome <;> simp [ho] at hnone
  | false =>
    have ho : r.outcome = none := by simpa [htakes] using hnone
    have hsame : r.receive a = r := by simp [receive, htakes]
    rw [hsame]
    exact h ho

/-- By induction over the items of a step: the outcome that is missing after all of them was missing
after each. -/
theorem receiveAll_unarmed {r : Run} (h : r.outcome = none → r.session.delays = [])
    (items : List (Arrival KeepAliveResponse))
    (hnone : (items.foldl receive r).outcome = none) :
    (items.foldl receive r).session.delays = [] := by
  induction items generalizing r with
  | nil => exact h hnone
  | cons a items ih => exact ih (receive_unarmed h a) hnone

/-- Of the acts only what arrives schedules anything. -/
theorem act_unarmed {r : Run} (h : r.outcome = none → r.session.delays = []) (s : Step)
    (hnone : (r.act s).outcome = none) : (r.act s).session.delays = [] := by
  -- What is handled is scheduled, so an act that handles nothing schedules nothing.
  have hquiet (hs : r.handledIn s = []) (ho : (r.act s).outcome = r.outcome) :
      (r.act s).session.delays = [] := by
    rw [act_delays, hs, h (ho.symm.trans hnone)]
    rfl
  cases s with
  | arrive items => exact receiveAll_unarmed h items hnone
  | fire i =>
    refine hquiet rfl ?_
    simp only [act]
    split <;> rfl
  | close =>
    refine hquiet rfl ?_
    simp only [act]
    split <;> rfl
  | drop =>
    refine hquiet rfl ?_
    simp only [act]
    split <;> rfl
  | _ => exact hquiet rfl rfl

/-- Settling reads the outcome and notes none. -/
@[simp] theorem settle_outcome (r : Run) : r.settle.outcome = r.outcome := by
  show r.decideStart.outcome = r.outcome
  rcases r.decideStart_cases with h | h | ⟨e, h⟩ <;> rw [h]
  rfl

/-- A start that is not decided when all has settled has noted nothing. -/
theorem outcome_of_settle_waiting {r : Run} (h : r.settle.start = .waiting) :
    r.outcome = none := by
  have hwaiting : r.decideStart.start = .waiting := h
  unfold decideStart at hwaiting
  split at hwaiting
  · split at hwaiting
    · split at hwaiting
      · exact absurd hwaiting (by simp)
      · exact absurd hwaiting (by simp [giveUp])
    · exact absurd hwaiting (by simp [giveUp])
    · next hnone => exact hnone
  · next hdecided => exact absurd hwaiting hdecided

/-- A session whose start is not decided or has failed hears no firing: either nothing was scheduled
yet, or it is closed. -/
theorem firing_unheard {r : Run} (h : r.session.delays = [] ∨ r.session.closed = true) (s : Step) :
    (r.firing s).countP Firing.heard = 0 := by
  cases s with
  | fire i =>
    simp only [firing]
    rcases h with hnil | hclosed
    · have hnone : r.session.scheduler.heartbeats = [] := List.map_eq_nil_iff.1 hnil
      have hcannot : r.session.scheduler.canFire i = false := by
        rw [Scheduler.canFire, hnone]
        rfl
      rw [hcannot, if_neg Bool.false_ne_true]
      rfl
    · split
      · simp [hclosed]
      · rfl
  | _ => rfl

/-! ### Until a session is handed out -/

/-- What holds of a run from its start on, in view of a start that may still fail. -/
structure Unsettled (lease : Int64) (r : Run) : Prop where
  valid : r.session.Valid
  lease_eq : r.session.lease = lease
  /-- Nothing is scheduled before something was noted. -/
  unarmed : r.outcome = none → r.session.delays = []
  /-- Only the first request was sent, unless the session was handed out. -/
  requests_eq : r.start.isReady = false → r.session.requests = [.leaseKeepAlive lease]
  given_up : ∀ e, r.start = .failed e →
    r.session.closed = true ∧ r.receiving = false ∧ r.held = false

/-- And what holds in addition once everything has happened that happens by itself. -/
structure Tentative (lease : Int64) (r : Run) : Prop extends Unsettled lease r where
  no_outcome : r.start = .waiting → r.outcome = none

variable {lease : Int64} {r : Run}

/-- An act leaves the start as it is, and it sends nothing while nothing is scheduled or the session
is closed. -/
theorem Tentative.act (h : r.Tentative lease) (s : Step) : (r.act s).Unsettled lease where
  valid := h.valid.reaches (r.act_reaches s)
  lease_eq := (r.act_reaches s).lease_eq.trans h.lease_eq
  unarmed := act_unarmed h.unarmed s
  requests_eq hready := by
    rw [act_start] at hready
    -- A firing needs a heartbeat that was scheduled and a session that is open.
    have hunheard : r.session.delays = [] ∨ r.session.closed = true := by
      cases hstart : r.start with
      | waiting => exact .inl (h.unarmed (h.no_outcome hstart))
      | failed e => exact .inr (h.given_up e hstart).1
      | ready id =>
        rw [hstart] at hready
        exact absurd hready.symm Bool.false_ne_true
    rw [act_requests h.valid, firing_unheard hunheard, List.replicate_zero, List.append_nil,
      h.requests_eq hready]
  given_up e he := by
    rw [act_start] at he
    obtain ⟨hclosed, hstopped, hheld⟩ := h.given_up e he
    exact ⟨(r.act_reaches s).closed h.valid hclosed, act_of_stopped hstopped s,
      act_of_let_go hheld s⟩

/-- Settling gives up a start that failed, and so makes it tentative again. -/
theorem Unsettled.settle (h : r.Unsettled lease) : r.settle.Tentative lease where
  valid := h.valid.reaches (Session.reaches_of_eq_or_close (.refl _) r.settle_session)
  lease_eq :=
    (Session.reaches_of_eq_or_close (.refl _) r.settle_session).lease_eq.trans h.lease_eq
  unarmed hnone := by
    rw [settle_outcome] at hnone
    rw [settle_eq Session.close_delays, h.unarmed hnone]
  no_outcome hwaiting := r.settle_outcome.trans (outcome_of_settle_waiting hwaiting)
  requests_eq hready := by
    have hready' : r.decideStart.start.isReady = false := hready
    rw [settle_eq Session.close_requests]
    -- A start that was ready would be ready after settling too.
    cases hstart : r.start with
    | ready id =>
      rw [decideStart, hstart] at hready'
      have hr : r.start.isReady = false := hready'
      rw [hstart] at hr
      exact absurd hr.symm Bool.false_ne_true
    | _ => exact h.requests_eq (by rw [hstart]; rfl)
  given_up e he := by
    have hdecided : r.decideStart.start = .failed e := he
    rcases r.decideStart_cases with heq | heq | ⟨e', heq⟩
    · -- The start had failed before.
      rw [heq] at hdecided
      obtain ⟨hclosed, hstopped, hheld⟩ := h.given_up e hdecided
      have hsession : r.decideStart.session = r.session := congrArg session heq
      exact ⟨hsession ▸ hclosed, settle_of_stopped hstopped, settle_of_let_go hheld⟩
    -- A start that becomes ready has not failed.
    · rw [heq] at hdecided
      exact absurd hdecided (by simp)
    -- The start fails in this very step and gives the session up.
    · have hclosed : r.settle.session.closed = true := by
        show r.decideStart.session.closed = true
        rw [heq]
        exact Session.close_closed _
      refine ⟨hclosed, settle_receiving_of_closed hclosed, ?_⟩
      show r.decideStart.held = false
      rw [heq]
      rfl

namespace Tentative

/-- **No step makes a start that is not ready send anything, or one that failed keep anything.** -/
theorem step (h : r.Tentative lease) (s : Step) : (r.step s).Tentative lease := (h.act s).settle

/-- By induction over the script. -/
theorem steps (h : r.Tentative lease) (script : List Step) : (r.steps script).Tentative lease := by
  induction script generalizing r with
  | nil => exact h
  | cons s script ih => exact ih (h.step s)

/-- Every run begins so: with one request, and nothing scheduled. -/
theorem fresh (lease : Int64) (down refusing : Bool) (timeout : Option Duration)
    (handler : Option Behaviour) (openFailure : Option Status) :
    (begin lease { down, refusing } timeout handler openFailure).Tentative lease := by
  have hvalid := valid_begin lease down refusing timeout handler openFailure
  unfold begin at hvalid ⊢
  cases openFailure with
  | some s =>
    refine ⟨⟨hvalid, rfl, fun _ => ?_, fun _ => ?_, fun e _ => ?_⟩, fun hwaiting => ?_⟩
    · exact (Session.close_delays _).trans (Session.beat_delays _)
    · exact Session.close_requests _
    · exact ⟨Session.close_closed _, rfl, rfl⟩
    · exact absurd hwaiting (by simp [giveUp])
  | none =>
    refine Unsettled.settle ⟨(Session.valid_fresh lease down refusing).beat, rfl, fun _ => ?_,
      fun _ => rfl, fun e he => absurd he (by simp)⟩
    exact Session.beat_delays _

/-- A start that has failed has left nothing. -/
theorem abandoned (h : r.Tentative lease) {e : ClientError} (he : r.start = .failed e) :
    r.Abandoned lease := by
  obtain ⟨hclosed, hstopped, hheld⟩ := h.given_up e he
  exact ⟨hclosed, h.requests_eq (by rw [he]; rfl),
    (requestsEnded_iff h.valid).2 (.inl hclosed), h.valid.down_of_closed hclosed,
    h.valid.cancelled_of_closed hclosed, hstopped, hheld⟩

end Tentative
end Run
end KeepAlive

namespace Watch
namespace Run

/-- What a failed start leaves of a watch session. -/
structure Abandoned (create : WatchCreateRequest) (r : Run) : Prop where
  closed : r.session.closed = true
  requests_eq : r.session.requests = [.watchCreate create]
  requests_ended : r.session.sending = false
  stopped : r.receiving = false
  /-- Nobody has the session in hand. -/
  not_handedOut : r.handedOut = false

/-- A start that has failed has left nothing. -/
theorem abandoned_of_failed {create : WatchCreateRequest} {timeout : Option Duration}
    {handler : Behaviour} {openFailure : Option Status} {script : List Step} {e : ClientError}
    (he : ((begin create timeout handler openFailure).steps script).start = .failed e) :
    ((begin create timeout handler openFailure).steps script).Abandoned create := by
  have haccount := (account_begin create timeout handler openFailure).steps script
  have hcoherent := steps_coherent (begun_begin create timeout handler openFailure).coherent script
  have hclosed := haccount.closed_iff.2 (.inl ⟨e, he⟩)
  refine ⟨hclosed, ?_, by rw [haccount.sending_eq, hclosed]; rfl, hcoherent e he, ?_⟩
  · rw [haccount.requests_eq, he]
    rfl
  · rw [handedOut, he]
    exact Bool.and_false _

end Run
end Watch

/-- **A start that fails leaves nothing behind.** Whatever the start of a session failed with, the
session is closed, its requests are at their end after the first one, its task does not receive and
nobody has it in hand; of a keep-alive session the scheduler is shut down and every heartbeat that
it accepted is cancelled. Whatever happens later leaves it so, and no handler is told anything. -/
theorem nothing_left_of_failed_start :
    (∀ (lease : Int64) (down refusing : Bool) (timeout : Option Duration)
        (handler : Option Behaviour) (openFailure : Option Status) (script : List KeepAlive.Step)
        (e : ClientError),
      let r := (KeepAlive.Run.begin lease { down, refusing } timeout handler openFailure).steps
        script
      r.start = .failed e →
        r.Abandoned lease ∧
          ∀ later, (r.steps later).Abandoned lease ∧ (r.steps later).callbacks = r.callbacks) ∧
      ∀ (create : WatchCreateRequest) (timeout : Option Duration) (handler : Behaviour)
        (openFailure : Option Status) (script : List Watch.Step) (e : ClientError),
      let r := (Watch.Run.begin create timeout handler openFailure).steps script
      r.start = .failed e →
        r.Abandoned create ∧
          ∀ later, (r.steps later).Abandoned create ∧ (r.steps later).callbacks = r.callbacks := by
  constructor
  · intro lease down refusing timeout handler openFailure script e r he
    have htentative : r.Tentative lease :=
      (KeepAlive.Run.Tentative.fresh lease down refusing timeout handler openFailure).steps script
    have habandoned := htentative.abandoned he
    refine ⟨habandoned, fun later => ⟨(htentative.steps later).abandoned (e := e) ?_, ?_⟩⟩
    -- A start that was decided stays so, and the failed start is what the account of abandonment
    -- reads.
    · rw [← he]
      exact start_foldl_of_decided KeepAlive.Run.step_start_of_decided (by simp [he]) later
    · exact KeepAlive.Run.steps_callbacks_of_stopped habandoned.stopped later
  · intro create timeout handler openFailure script e r he
    have habandoned : r.Abandoned create := Watch.Run.abandoned_of_failed he
    refine ⟨habandoned, fun later => ⟨?_, ?_⟩⟩
    -- The whole script is what an abandoned watch is known by.
    · have hlater : r.steps later =
          (Watch.Run.begin create timeout handler openFailure).steps (script ++ later) :=
        (List.foldl_append ..).symm
      have hfailed : (r.steps later).start = .failed e := by
        rw [← he]
        exact start_foldl_of_decided Watch.Run.step_start_of_decided (by simp [he]) later
      rw [hlater] at hfailed ⊢
      exact Watch.Run.abandoned_of_failed hfailed
    · exact Watch.Run.steps_callbacks_of_stopped habandoned.stopped later

/-- A lease without time left, whose heartbeat was scheduled before the start failed and fires all
the same, and a watch that is confirmed when it is too late. -/
theorem nothing_left_of_failed_start_too_late :
    let r := (KeepAlive.Run.begin 7 {} none (some .record) none).steps
      [.arrive [.response { id := 7, ttl := 0 }]]
    let create := ({} : WatchOptions).request [97]
    let w := (Watch.Run.begin create (some (.ofSeconds 5)) .record none).steps
      [.arrive [.response { watchId := 0 }], .advance (.ofSeconds 5)]
    (r.start = .failed (.leaseNotFound 7) ∧ r.session.delays = [.ofSeconds 1] ∧ r.Abandoned 7 ∧
        (r.steps [.fire 0]).Abandoned 7 ∧ (r.steps [.fire 0]).callbacks = r.callbacks) ∧
      w.start = .failed (.handshakeTimeout "watch creation" (.ofSeconds 5)) ∧
        w.Abandoned create ∧
        (w.steps [.arrive [.response { watchId := 42, created := true }]]).callbacks =
          w.callbacks := by
  intro r create w
  have hlate : r.start = .failed (.leaseNotFound 7) := rfl
  have hlease := nothing_left_of_failed_start.1 7 false false none (some .record) none
    [.arrive [.response { id := 7, ttl := 0 }]] (.leaseNotFound 7) hlate
  have htimeout : w.start = .failed (.handshakeTimeout "watch creation" (.ofSeconds 5)) := by
    -- the clocks compare only once the values are closed
    dsimp only [w, create]
    rfl
  have hwatch := nothing_left_of_failed_start.2 create (some (.ofSeconds 5)) .record none
    [.arrive [.response { watchId := 0 }], .advance (.ofSeconds 5)]
    (.handshakeTimeout "watch creation" (.ofSeconds 5)) htimeout
  exact ⟨⟨hlate, rfl, hlease.1, hlease.2 _⟩, htimeout, hwatch.1, (hwatch.2 _).2⟩

end EtcdClient
