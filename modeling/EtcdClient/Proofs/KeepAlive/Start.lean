import EtcdClient.Proofs.KeepAlive.Requests
import EtcdClient.Proofs.Session.Start

/-
# The start of a keep-alive session

The start of a keep-alive session is decided by the first thing that arrives, whatever it is, unless
the stream could not be opened or the timeout comes first. `verdict` is the outcome for each cause.
The scheduler has no say: a heartbeat that is refused fails the receiving task, but by then the
response has been noted as the outcome (`receive_outcome`).

A start that is not decided is `Pending`: the session is open and held, its task receives, and no
outcome was noted. `step_settled` is what one step makes of it, and `start_of_first_cause` what a
script does.

Source: `SPEC_FULL.md` §4.1, the construction, and §10.4 on the handshake cell.
-/

namespace EtcdClient
namespace KeepAlive

/-- What a start gets to see in a step. -/
def Step.sight : Step → Sight KeepAliveResponse
  | .arrive items => { items }
  | .advance d => { elapsed := d }
  | _ => {}

/-- The end of a start, by what decided it. -/
def verdict (lease : Int64) : Cause KeepAliveResponse → Start
  | .refused s => .failed (.grpc s)
  | .arrival (.response response) =>
    if 0 < response.ttl then .ready lease else .failed (.leaseNotFound lease)
  | .arrival (.failure s) => .failed (.grpc s)
  | .arrival .finish =>
    .failed (.streamClosed "keep-alive stream ended before the first response")
  | .timeout t => .failed (.handshakeTimeout "the first keep-alive response" t)

/-- Each cause decides: none of them leaves the start waiting. -/
theorem verdict_ne_waiting (lease : Int64) (c : Cause KeepAliveResponse) :
    verdict lease c ≠ .waiting := by
  cases c with
  | refused s => simp [verdict]
  | arrival a =>
    cases a with
    | response response =>
      simp only [verdict]
      split <;> simp
    | failure s => simp [verdict]
    | finish => simp [verdict]
  | timeout t => simp [verdict]

/-- A rearm closes nothing. -/
theorem Session.rearm_closed (s : Session) (ttl : Int64) : (s.rearm ttl).2.closed = s.closed := by
  cases ha : s.scheduler.accepts with
  | true => rw [rearm_of_accepts ha]
  | false => rw [rearm_of_refuses ha]

namespace Run

/-! ### Only settling decides -/

/-- A handler has no say in the start. -/
@[simp] theorem tell_start (r : Run) (listener : Listener) (c : Callback KeepAliveResponse) :
    (r.tell listener c).start = r.start := by
  unfold tell
  split <;> rfl

/-- An arrival is noted, and the start is decided when the run settles. -/
theorem receive_start (r : Run) (a : Arrival KeepAliveResponse) :
    (r.receive a).start = r.start := by
  unfold receive
  split
  · cases a with
    | response response =>
      simp only [handle]
      split <;> exact tell_start _ _ _
    | failure s => exact tell_start _ _ _
    | finish => rfl
  · rfl

/-- So no act decides a start; only settling does. -/
theorem act_start (r : Run) (s : Step) : (r.act s).start = r.start := by
  cases s with
  | arrive items =>
    simp only [act]
    induction items generalizing r with
    | nil => rfl
    | cons a items ih => rw [List.foldl_cons, ih, receive_start]
  | fire i => simp only [act]; split <;> rfl
  | close => simp only [act]; split <;> rfl
  | drop => simp only [act]; split <;> rfl
  | _ => rfl

/-- A start that was decided is not decided again. -/
theorem step_start_of_decided (r : Run) (s : Step) (h : r.start ≠ .waiting) :
    (r.step s).start = r.start := by
  have hact := act_start r s
  rw [← hact]
  show (r.act s).decideStart.start = (r.act s).start
  unfold decideStart
  split
  · next hwaiting => exact absurd (hact.symm.trans hwaiting) h
  · rfl

/-! ### The clock -/

/-- To tell a handler takes no time. -/
theorem tell_clock (r : Run) (listener : Listener) (c : Callback KeepAliveResponse) :
    (r.tell listener c).clock = r.clock := by
  unfold tell
  split <;> rfl

/-- Nor does anything that arrives. -/
theorem receive_clock (r : Run) (a : Arrival KeepAliveResponse) :
    (r.receive a).clock = r.clock := by
  unfold receive
  split
  · cases a with
    | response response =>
      simp only [handle]
      split <;> exact tell_clock _ _ _
    | failure s => exact tell_clock _ _ _
    | finish => rfl
  · rfl

/-- The clock moves as far as the script says. -/
theorem act_clock (r : Run) (s : Step) : (r.act s).clock = s.sight.after r.clock := by
  cases s with
  | arrive items =>
    show (items.foldl receive r).clock = r.clock
    induction items generalizing r with
    | nil => rfl
    | cons a items ih => rw [List.foldl_cons, ih, receive_clock]
  | fire i => simp only [act]; split <;> rfl
  | close => simp only [act]; split <;> rfl
  | drop => simp only [act]; split <;> rfl
  | _ => rfl

/-- The clock goes on by the time that a step takes. -/
theorem step_clock (r : Run) (s : Step) : (r.step s).clock = s.sight.after r.clock := by
  rw [← act_clock]
  show (r.act s).decideStart.clock = (r.act s).clock
  rcases (r.act s).decideStart_cases with h | h | ⟨e, h⟩ <;> rw [h]
  rfl

/-! ### The outcome that is noted -/

/-- The outcome that is noted when something arrives. -/
def outcomeOf : Arrival KeepAliveResponse → Result Int64
  | .response response => .ok response.ttl
  | .failure s => .error (.grpc s)
  | .finish => .error streamEnded

/-- What a handler does is no outcome. -/
theorem tell_outcome (r : Run) (listener : Listener) (c : Callback KeepAliveResponse) :
    (r.tell listener c).outcome = r.outcome := by
  unfold tell
  split <;> rfl

/-- A failure is the outcome of a start that has none yet. -/
theorem fail_outcome (r : Run) (e : ClientError) :
    (r.fail e).outcome = (r.outcome <|> some (.error e)) :=
  tell_outcome _ _ _

/-- A receiving task notes what arrives unless it has noted something before, and a response before
its heartbeat is asked for. -/
theorem receive_outcome (r : Run) (a : Arrival KeepAliveResponse) :
    (r.receive a).outcome =
      (r.outcome <|> if r.receiving && !r.session.closed then some (outcomeOf a) else none) := by
  unfold receive
  split
  · cases a with
    | response response =>
      simp only [handle]
      split
      · exact tell_outcome _ _ _
      · rw [fail_outcome]
        -- The refusal comes second.
        simp [decide, outcomeOf]
    | failure s => exact fail_outcome _ _
    | finish => rfl
  · simp

/-- The first outcome stays, whatever else arrives in the same step. -/
theorem receiveAll_outcome_of_some {r : Run} {o : Result Int64} (h : r.outcome = some o)
    (items : List (Arrival KeepAliveResponse)) :
    (items.foldl receive r).outcome = some o := by
  induction items generalizing r with
  | nil => exact h
  | cons a items ih => exact ih (by rw [receive_outcome, h]; rfl)

/-! ### A start that is not decided -/

/-- What holds of a run whose start is not decided. -/
structure Undecided (lease : Int64) (timeout : Option Duration) (clock : Duration) (r : Run) :
    Prop where
  start_eq : r.start = .waiting
  opened : r.session.closed = false
  held_eq : r.held = true
  lease_eq : r.session.lease = lease
  timeout_eq : r.timeout = timeout
  clock_eq : r.clock = clock

/-- And what holds in addition once everything has happened that happens by itself. -/
structure Pending (lease : Int64) (timeout : Option Duration) (r : Run) : Prop
    extends Undecided lease timeout r.clock r where
  receives : r.receiving = true
  no_outcome : r.outcome = none

namespace Undecided

variable {lease : Int64} {timeout : Option Duration} {clock : Duration} {r : Run}

/-- A session whose start is not decided is not handed out. -/
theorem not_handedOut (h : r.Undecided lease timeout clock) : r.handedOut = false := by
  rw [handedOut, h.start_eq]
  exact Bool.and_false _

/-- A handler cannot close a session that is not handed out. -/
theorem tell (h : r.Undecided lease timeout clock) (listener : Listener)
    (c : Callback KeepAliveResponse) : (r.tell listener c).Undecided lease timeout clock := by
  have hsession : (r.tell listener c).session = r.session := by
    unfold Run.tell
    split
    · rfl
    · dsimp only
      split
      · rw [if_neg (by simp [h.not_handedOut])]
      · rfl
  have hrest : (r.tell listener c).timeout = r.timeout ∧ (r.tell listener c).clock = r.clock := by
    unfold Run.tell
    split <;> exact ⟨rfl, rfl⟩
  exact ⟨(tell_start _ _ _).trans h.start_eq, hsession ▸ h.opened,
    (tell_held _ _ _).trans h.held_eq, hsession ▸ h.lease_eq, hrest.1.trans h.timeout_eq,
    hrest.2.trans h.clock_eq⟩

/-- Nor does a failure close it before the run settles. -/
theorem fail (h : r.Undecided lease timeout clock) (e : ClientError) :
    (r.fail e).Undecided lease timeout clock := by
  have hlogged : Undecided lease timeout clock
      ({ r with log := r.log ++ [LogEntry.keepAliveFailed r.session.lease e] }.decide (.error e)) :=
    ⟨h.start_eq, h.opened, h.held_eq, h.lease_eq, h.timeout_eq, h.clock_eq⟩
  have htold := hlogged.tell .keepAliveError (.error e)
  exact ⟨htold.start_eq, htold.opened, htold.held_eq, htold.lease_eq, htold.timeout_eq,
    htold.clock_eq⟩

/-- Nor does a response, accepted or refused. -/
theorem handle (h : r.Undecided lease timeout clock) (response : KeepAliveResponse) :
    (r.handle response).Undecided lease timeout clock := by
  have hclosed : (r.session.rearm response.ttl).2.closed = false :=
    (Session.rearm_closed _ _).trans h.opened
  have hlease : (r.session.rearm response.ttl).2.lease = lease :=
    (Session.rearm_lease _ _).trans h.lease_eq
  simp only [Run.handle, decide_session]
  split
  · next hrearm =>
    rw [hrearm] at hclosed hlease
    refine tell ?_ _ _
    exact ⟨h.start_eq, hclosed, h.held_eq, hlease, h.timeout_eq, h.clock_eq⟩
  · next hrearm =>
    rw [hrearm] at hclosed hlease
    refine fail ?_ _
    exact ⟨h.start_eq, hclosed, h.held_eq, hlease, h.timeout_eq, h.clock_eq⟩

/-- A start stays undecided through one arrival. -/
theorem receive (h : r.Undecided lease timeout clock) (a : Arrival KeepAliveResponse) :
    (r.receive a).Undecided lease timeout clock := by
  unfold Run.receive
  split
  · cases a with
    | response response => exact h.handle response
    | failure s => exact h.fail _
    | finish =>
      exact ⟨h.start_eq, h.opened, h.held_eq, h.lease_eq, h.timeout_eq, h.clock_eq⟩
  · exact h

/-- And through all the items of a step, by induction over them. -/
theorem receiveAll (h : r.Undecided lease timeout clock)
    (items : List (Arrival KeepAliveResponse)) :
    (items.foldl Run.receive r).Undecided lease timeout clock := by
  induction items generalizing r with
  | nil => exact h
  | cons a items ih => exact ih (h.receive a)

/-- **Nothing that is done to a run decides its start.** -/
theorem act (h : r.Undecided lease timeout clock) (s : Step) :
    (r.act s).Undecided lease timeout (s.sight.after clock) := by
  cases s with
  | arrive items => exact h.receiveAll items
  | advance d =>
    exact ⟨h.start_eq, h.opened, h.held_eq, h.lease_eq, h.timeout_eq, h.clock_eq ▸ rfl⟩
  | fire i =>
    simp only [Run.act]
    split
    · split
      · exact ⟨h.start_eq, h.opened, h.held_eq, h.lease_eq, h.timeout_eq, h.clock_eq⟩
      · refine ⟨h.start_eq, ?_, h.held_eq, ?_, h.timeout_eq, h.clock_eq⟩
        · unfold Session.beat
          split <;> exact h.opened
        · unfold Session.beat
          split <;> exact h.lease_eq
    · exact h
  | shutdownScheduler =>
    exact ⟨h.start_eq, h.opened, h.held_eq, h.lease_eq, h.timeout_eq, h.clock_eq⟩
  | refuse b => exact ⟨h.start_eq, h.opened, h.held_eq, h.lease_eq, h.timeout_eq, h.clock_eq⟩
  -- Nobody has a session in hand whose start is not decided, so neither a close nor a drop does
  -- anything.
  | close => rwa [Run.act, if_neg (by simp [h.not_handedOut])]
  | drop => rwa [Run.act, if_neg (by simp [h.not_handedOut])]
  | hangUp => exact ⟨h.start_eq, h.opened, h.held_eq, h.lease_eq, h.timeout_eq, h.clock_eq⟩
  | setHandler b =>
    exact ⟨h.start_eq, h.opened, h.held_eq, h.lease_eq, h.timeout_eq, h.clock_eq⟩

/-- **Settling decides a start by the first arrival, else by the timeout.** -/
theorem settle (h : r.Undecided lease timeout clock) (items : List (Arrival KeepAliveResponse))
    (houtcome : r.outcome = items.head?.map outcomeOf) (hquiet : items = [] → r.receiving = true) :
    Settled start (Pending lease timeout) (verdict lease)
      (items.map .arrival ++ overdue timeout clock) r.settle := by
  cases items with
  -- Something has arrived, and the first of it was noted as the outcome.
  | cons a items =>
    show r.decideStart.start = verdict lease (.arrival a)
    have ho : r.outcome = some (outcomeOf a) := houtcome
    unfold decideStart
    cases a with
    | response response =>
      simp only [h.start_eq, ho, outcomeOf, verdict, h.lease_eq]
      split <;> rfl
    | failure s => simp only [h.start_eq, ho, outcomeOf, verdict, giveUp]
    | finish => simp only [h.start_eq, ho, outcomeOf, verdict, giveUp, streamEnded]
  | nil =>
    -- Nothing has arrived, so the time decides or nothing does.
    have ho : r.outcome = none := houtcome
    have hreceiving := hquiet rfl
    have hstays (hd : r.decideStart = r) : r.settle.Pending lease timeout := by
      have hsettle : r.settle = { r with receiving := true } := by
        rw [Run.settle, hd, hreceiving, h.opened]
        rfl
      rw [hsettle]
      exact ⟨⟨h.start_eq, h.opened, h.held_eq, h.lease_eq, h.timeout_eq, rfl⟩, rfl, ho⟩
    have hclock := h.clock_eq
    rw [List.map_nil, List.nil_append]
    cases timeout with
    | none =>
      refine hstays ?_
      simp only [decideStart, h.start_eq, ho, h.timeout_eq]
    | some t =>
      simp only [overdue]
      split
      · next hdue =>
        show r.decideStart.start = verdict lease (.timeout t)
        simp only [decideStart, h.start_eq, ho, h.timeout_eq, hclock, if_pos hdue, giveUp, verdict]
      · next hdue =>
        refine hstays ?_
        simp only [decideStart, h.start_eq, ho, h.timeout_eq, hclock, if_neg hdue]

end Undecided

/-! ### Every step, and every script -/

namespace Pending

variable {lease : Int64} {timeout : Option Duration} {r : Run}

/-- The first arrival of a step is noted. -/
theorem act_outcome (h : r.Pending lease timeout) (s : Step) :
    (r.act s).outcome = s.sight.items.head?.map outcomeOf := by
  have hnone := h.no_outcome
  cases s with
  | arrive items =>
    cases items with
    | nil => exact hnone
    | cons a items =>
      refine receiveAll_outcome_of_some ?_ items
      rw [receive_outcome, hnone, h.receives, h.opened]
      rfl
  | fire i => simp only [act]; split <;> exact hnone
  | close => simp only [act]; split <;> exact hnone
  | drop => simp only [act]; split <;> exact hnone
  | _ => exact hnone

/-- Without an arrival the task goes on. -/
theorem act_receiving (h : r.Pending lease timeout) {s : Step} (hquiet : s.sight.items = []) :
    (r.act s).receiving = true := by
  cases s with
  | arrive items =>
    obtain rfl : items = [] := hquiet
    exact h.receives
  | fire i => simp only [act]; split <;> exact h.receives
  | close => simp only [act]; split <;> exact h.receives
  | drop => simp only [act]; split <;> exact h.receives
  | _ => exact h.receives

/-- **One step settles a start that is pending.** -/
theorem step (h : r.Pending lease timeout) (s : Step) :
    Settled start (Pending lease timeout) (verdict lease)
      (s.sight.causes (fun _ => true) timeout r.clock) (r.step s) := by
  have hsettled := (h.toUndecided.act s).settle _ (h.act_outcome s) h.act_receiving
  rwa [Sight.causes, List.filter_eq_self.2 fun _ _ => rfl]

/-- A start that hands out a session in a step hands out an open one. -/
theorem open_of_ready (h : r.Pending lease timeout) {s : Step}
    (hready : (r.step s).start.isReady = true) :
    (r.step s).handedOut = true ∧ (r.step s).session.closed = false := by
  have hact := h.toUndecided.act s
  have hheld : (r.step s).held = (r.act s).decideStart.held := rfl
  have hstart : (r.step s).start = (r.act s).decideStart.start := rfl
  have hsession : (r.step s).session = (r.act s).decideStart.session := rfl
  rw [handedOut, hready, Bool.and_true, hheld, hsession]
  rw [hstart] at hready
  rcases (r.act s).decideStart_cases with hr | hr | ⟨e, hr⟩
  · rw [hr, hact.start_eq] at hready
    exact absurd hready (by decide)
  · rw [hr]
    exact ⟨hact.held_eq, hact.opened⟩
  · rw [hr] at hready
    exact absurd hready Bool.false_ne_true

end Pending

/-- The opening settles a start like a step in which nothing is to be seen. -/
theorem begin_settled (lease : Int64) (scheduler : Scheduler) (timeout : Option Duration)
    (handler : Option Behaviour) (openFailure : Option Status) :
    Settled start (Pending lease timeout) (verdict lease)
      (openFailure.toList.map .refused ++ ({} : Sight KeepAliveResponse).causes (fun _ => true)
        timeout ⟨0⟩) (begin lease scheduler timeout handler openFailure) := by
  cases openFailure with
  | some s => rfl
  | none =>
    have hfresh : Undecided lease timeout ⟨0⟩
        { session := Session.beat { lease, scheduler }, timeout, handler } :=
      ⟨rfl, rfl, rfl, rfl, rfl, rfl⟩
    exact hfresh.settle [] rfl fun _ => rfl

/-- The clock starts at zero, also where the stream could not be opened. -/
theorem begin_clock (lease : Int64) (scheduler : Scheduler) (timeout : Option Duration)
    (handler : Option Behaviour) (openFailure : Option Status) :
    (begin lease scheduler timeout handler openFailure).clock = ⟨0⟩ := by
  unfold begin
  cases openFailure with
  | some s => rfl
  | none =>
    show (decideStart _).clock = ⟨0⟩
    rcases decideStart_cases { session := Session.beat { lease, scheduler }, timeout, handler } with
      h | h | ⟨e, h⟩ <;> rw [h]
    rfl

/-- So a script settles the start. -/
theorem steps_settled (lease : Int64) (scheduler : Scheduler) (timeout : Option Duration)
    (handler : Option Behaviour) (openFailure : Option Status) (script : List Step) :
    Settled start (Pending lease timeout) (verdict lease)
      (causes (fun _ => true) timeout openFailure (script.map Step.sight))
      ((begin lease scheduler timeout handler openFailure).steps script) := by
  have hrun := Settled.run (fun _ => true) timeout Step.sight
    (fun r s _ => r.step_clock s) (fun _ s h => h.step s) step_start_of_decided
    (verdict_ne_waiting lease) (begin_settled lease scheduler timeout handler openFailure) script
  rwa [begin_clock, List.append_assoc] at hrun

/-- **The first cause decides the start.** After any script the start is waiting if nothing has
happened that can decide it, and otherwise the verdict of the first such thing: a stream that could
not be opened, an arrival of any kind, or the timeout. A start that hands out a session hands out an
open one, whatever the scheduler made of the response. Nothing that happens later changes a start
that was decided. -/
theorem start_of_first_cause (lease : Int64) (scheduler : Scheduler) (timeout : Option Duration)
    (handler : Option Behaviour) (openFailure : Option Status) (script : List Step) :
    let r := (begin lease scheduler timeout handler openFailure).steps script
    let cause := (causes (fun _ => true) timeout openFailure (script.map Step.sight)).head?
    r.start = cause.elim .waiting (verdict lease) ∧
      (r.start = .waiting ↔ cause = none) ∧
      (∀ s, r.start = .waiting → (r.step s).start.isReady = true →
        (r.step s).handedOut = true ∧ (r.step s).session.closed = false) ∧
      (r.start ≠ .waiting → ∀ later, (r.steps later).start = r.start) := by
  intro r cause
  have hsettled := steps_settled lease scheduler timeout handler openFailure script
  have hwaiting (t : Run) (h : t.Pending lease timeout) : t.start = .waiting := h.start_eq
  refine ⟨hsettled.start_eq hwaiting, hsettled.waiting_iff hwaiting (verdict_ne_waiting lease),
    fun s hr hready => ?_, fun hdecided later => ?_⟩
  · exact (hsettled.eq_nil_and_pending (verdict_ne_waiting lease) hr).2.open_of_ready hready
  · exact start_foldl_of_decided step_start_of_decided hdecided later

/-- A scheduler that is down refuses the heartbeat, and the session is handed out all the same. -/
example : ((begin 7 { down := true } none none none).steps
    [.arrive [.response { id := 7, ttl := 10 }], .arrive [.finish]]).start = .ready 7 := rfl

end Run
end KeepAlive
end EtcdClient
