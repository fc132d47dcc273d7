import EtcdClient.Proofs.KeepAlive.Run
import EtcdClient.Proofs.Trace

/-
# The heartbeats of a run

Each response that an open session is handed moves its heartbeat: a new one is accepted after half
of the time to live that was reported, and the one before is cancelled. `Run.handled` is the record
of these responses, each with the answer of the scheduler, and `heartbeats_follow_responses` relates
it to the scheduler's own list:

| what the scheduler holds | in terms of the record |
| --- | --- |
| delays, in order | those of the responses before the first one refused |
| cancelled heartbeats | all but the last while the session is open, all once it is closed |

A refusal while the session is open ends the receiving task (`receive_of_refused`), so nothing is
handled after it.

Source: `SPEC_FULL.md` §4.1, the fifth step of the construction: every response rearms the timer.
-/

namespace EtcdClient
namespace KeepAlive

namespace Session

variable {s : Session}

/-- The delays of the heartbeats that were accepted, in order. -/
def delays (s : Session) : List Duration := s.scheduler.heartbeats.map Heartbeat.delay

/-- A heartbeat that fires schedules none: the next one waits for the response. -/
@[simp] theorem beat_delays (s : Session) : s.beat.delays = s.delays := by
  unfold beat
  split <;> rfl

/-- A close cancels what is scheduled, which is a mark on a heartbeat and no change of its delay. -/
@[simp] theorem close_delays (s : Session) : s.close.delays = s.delays := by
  unfold close
  split
  · rfl
  · show s.stopHeartbeats.heartbeats.map Heartbeat.delay = s.delays
    unfold stopHeartbeats
    split
    · exact Scheduler.map_modify (fun _ => by rfl) _ _
    · rfl

/-- Firing is a mark as well. -/
@[simp] theorem markFired_delays (s : Session) (i : Nat) :
    delays { s with scheduler := s.scheduler.markFired i } = s.delays :=
  Scheduler.map_modify (fun _ => by rfl) _ i

/-- A heartbeat that is accepted comes last. -/
theorem rearm_delays (s : Session) (ttl : Int64) :
    (s.rearm ttl).2.delays =
      s.delays ++ if s.scheduler.accepts then [heartbeatDelay ttl] else [] := by
  cases ha : s.scheduler.accepts with
  | false => simp [rearm_of_refuses ha]
  | true =>
    have hpush : (s.scheduler.push (heartbeatDelay ttl)).heartbeats.map Heartbeat.delay =
        s.delays ++ [heartbeatDelay ttl] := by
      simp [Scheduler.push, delays]
    rw [rearm_of_accepts ha, if_pos rfl, ← hpush]
    show (s.replaceHeartbeat (heartbeatDelay ttl)).heartbeats.map Heartbeat.delay = _
    unfold replaceHeartbeat
    split
    · exact Scheduler.map_modify (fun _ => by rfl) _ _
    · rfl

/-- Of an open session only the last heartbeat is not cancelled. -/
theorem Valid.cancelled_of_mem_dropLast (h : s.Valid) :
    ∀ b ∈ s.scheduler.heartbeats.dropLast, b.cancelled = true := by
  intro b hb
  obtain ⟨i, hi⟩ := List.getElem?_of_mem hb
  rw [List.getElem?_dropLast] at hi
  split at hi
  · next hlt =>
    have hlive := h.cancelled_iff i b hi
    have hs : s.scheduled ≠ some i := by
      intro hs
      have := ((h.scheduled_iff i).1 hs).2
      omega
    simpa [hs] using hlive
  · exact absurd hi (by simp)

/-- An open session knows its last heartbeat, which is the one the next response cancels. -/
theorem Valid.scheduled_of_open (h : s.Valid) (hopen : s.closed = false)
    (hne : s.scheduler.heartbeats ≠ []) :
    s.scheduled = some (s.scheduler.heartbeats.length - 1) := by
  have hpos := List.length_pos_iff.2 hne
  exact (h.scheduled_iff _).2 ⟨hopen, by omega⟩

/-- That last one is the heartbeat that is not cancelled. -/
theorem Valid.live_of_getLast? (h : s.Valid) (hopen : s.closed = false) :
    ∀ b ∈ s.scheduler.heartbeats.getLast?, b.cancelled = false := by
  intro b hb
  have hne : s.scheduler.heartbeats ≠ [] := by
    intro hnil
    simp [hnil] at hb
  rw [List.getLast?_eq_getElem?, Option.mem_def] at hb
  exact (h.cancelled_iff _ b hb).2 (h.scheduled_of_open hopen hne)

/-- So there is just one that is not cancelled, as soon as there is any. -/
theorem Valid.one_live (h : s.Valid) (hopen : s.closed = false)
    (hne : s.scheduler.heartbeats ≠ []) :
    s.scheduler.heartbeats.countP (fun b => !b.cancelled) = 1 := by
  have hlast := h.live_of_getLast? hopen _ (List.getLast?_eq_some_getLast hne)
  have hfront : s.scheduler.heartbeats.dropLast.countP (fun b => !b.cancelled) = 0 := by
    rw [List.countP_eq_zero]
    intro b hb
    simp [h.cancelled_of_mem_dropLast b hb]
  rw [← List.dropLast_concat_getLast hne, List.countP_append, hfront, List.countP_singleton]
  simp [hlast]

end Session

/-- A response that was handled while the session was open, and whether the scheduler took the
heartbeat for it. -/
structure Handled where
  response : KeepAliveResponse
  accepted : Bool

/-- The delays that responses ask for, without the refused ones. -/
def acceptedDelays (hs : List Handled) : List Duration :=
  (hs.filter Handled.accepted).map fun h => heartbeatDelay h.response.ttl

/-- Delays of two stretches of the record are those of the one and then of the other. -/
theorem acceptedDelays_append (xs ys : List Handled) :
    acceptedDelays (xs ++ ys) = acceptedDelays xs ++ acceptedDelays ys := by
  simp [acceptedDelays]

namespace Run

/-- A response is handled if the receiving task takes it while the session is open. -/
def handles (r : Run) : Arrival KeepAliveResponse → List Handled
  | .response response =>
    if r.receiving && !r.session.closed then [⟨response, r.session.scheduler.accepts⟩] else []
  | _ => []

/-- The responses that are handled in a step. -/
def handledIn (r : Run) : Step → List Handled
  | .arrive items => observe receive handles r items
  | _ => []

/-- The responses that are handled in the course of a script, in the order of their arrival. -/
def handled (r : Run) (script : List Step) : List Handled := observe step handledIn r script

/-! ### One delay for each response -/

/-- What the session makes of an arrival adds the delay of what it has handled and accepted. -/
theorem taken_delays (r : Run) (a : Arrival KeepAliveResponse) :
    (r.taken a).delays = r.session.delays ++ acceptedDelays (r.handles a) := by
  cases a with
  | response response =>
    simp only [taken, handles]
    cases r.receiving with
    | false => simp [acceptedDelays]
    | true =>
      cases hc : r.session.closed with
      | true => simp [Session.deliver, hc, acceptedDelays]
      | false =>
        have hdelays := r.session.rearm_delays response.ttl
        cases ha : r.session.scheduler.accepts <;>
          simpa [Session.deliver, hc, ha, acceptedDelays] using hdelays
  | failure s => simp [taken, handles, acceptedDelays]
  | finish => simp [taken, handles, acceptedDelays]

/-- Telling the handler adds none, so this is so of the whole arrival. -/
theorem receive_delays (r : Run) (a : Arrival KeepAliveResponse) :
    (r.receive a).session.delays = r.session.delays ++ acceptedDelays (r.handles a) := by
  rw [receive_eq_taken Session.close_delays, taken_delays]

/-- Of the acts only what arrives can add delays. -/
theorem act_delays (r : Run) (s : Step) :
    (r.act s).session.delays = r.session.delays ++ acceptedDelays (r.handledIn s) := by
  have hnone : r.session.delays = r.session.delays ++ acceptedDelays [] :=
    (List.append_nil _).symm
  -- Only an arrival is handled. The other steps leave the list of delays as it is, each for its
  -- reason.
  cases s with
  | arrive items =>
    exact foldl_eq_append_observe (fun r : Run => r.session.delays) (fun _ => True)
      (fun _ _ h => h) rfl acceptedDelays_append (fun r a _ => r.receive_delays a) trivial items
  | advance d => exact hnone
  | fire i =>
    refine Eq.trans ?_ hnone
    simp only [act]
    split
    · dsimp only
      split
      · exact Session.markFired_delays _ _
      · rw [Session.beat_delays, Session.markFired_delays]
    · rfl
  | shutdownScheduler => exact hnone
  | refuse b => exact hnone
  | close =>
    refine Eq.trans ?_ hnone
    simp only [act]
    split
    · exact Session.close_delays _
    · rfl
  | drop =>
    refine Eq.trans ?_ hnone
    simp only [act]
    split <;> rfl
  | hangUp => exact hnone
  | setHandler b => exact hnone

/-- Settling adds none, so this is so of the whole step. -/
theorem step_delays (r : Run) (s : Step) :
    (r.step s).session.delays = r.session.delays ++ acceptedDelays (r.handledIn s) := by
  rw [step, settle_eq Session.close_delays, act_delays]

/-- The scheduler holds one heartbeat for each response that it took. -/
theorem steps_delays (r : Run) (script : List Step) :
    (r.steps script).session.delays = r.session.delays ++ acceptedDelays (r.handled script) :=
  foldl_eq_append_observe (fun r : Run => r.session.delays) (fun _ => True) (fun _ _ h => h) rfl
    acceptedDelays_append (fun r s _ => r.step_delays s) trivial script

/-! ### Nothing is handled after a refusal -/

/-- Nothing is handled without a receiving task. -/
theorem handles_of_stopped {r : Run} (h : r.receiving = false) (a : Arrival KeepAliveResponse) :
    r.handles a = [] := by
  cases a <;> simp [handles, h]

/-- One arrival is one entry at most, so what precedes the first refusal is all that was
accepted. -/
theorem handles_takeWhile (r : Run) (a : Arrival KeepAliveResponse) :
    (r.handles a).takeWhile Handled.accepted = (r.handles a).filter Handled.accepted := by
  cases a with
  | response response =>
    simp only [handles]
    split
    · cases ha : r.session.scheduler.accepts <;> simp
    · rfl
  | failure s => rfl
  | finish => rfl

/-- A heartbeat that is refused while the session is open ends the receiving task. -/
theorem receive_of_refused (r : Run) (a : Arrival KeepAliveResponse) :
    ∀ h ∈ r.handles a, h.accepted = false → (r.receive a).receiving = false := by
  intro h hh hrefused
  cases a with
  | response response =>
    simp only [handles] at hh
    split at hh
    · next hopen =>
      rw [List.mem_singleton] at hh
      subst hh
      have hclosed : r.session.closed = false := by
        rw [Bool.and_eq_true] at hopen
        simpa using hopen.2
      have haccepts : r.session.scheduler.accepts = false := hrefused
      have herror : (r.decide (.ok response.ttl)).session.rearm response.ttl =
          (.error (.schedulerRejected r.session.lease), r.session) := by
        simp [Session.rearm, haccepts, hclosed]
      simp only [receive, if_pos hopen, handle, herror]
      rfl
    · exact absurd hh List.not_mem_nil
  | failure s => exact absurd hh List.not_mem_nil
  | finish => exact absurd hh List.not_mem_nil

/-- Over the items of one step nothing is handled after a refusal, since the refusal has stopped the
task. -/
theorem receiveAll_handled (r : Run) (items : List (Arrival KeepAliveResponse)) :
    (observe receive handles r items).takeWhile Handled.accepted =
        (observe receive handles r items).filter Handled.accepted ∧
      ∀ h ∈ observe receive handles r items, h.accepted = false →
        (items.foldl receive r).receiving = false :=
  observe_takeWhile (fun r : Run => r.receiving = false) (fun _ a h => handles_of_stopped h a)
    (fun r a h => by rw [receive_of_stopped h, h]) handles_takeWhile receive_of_refused r items

/-- No step handles anything without a receiving task. -/
theorem handledIn_of_stopped {r : Run} (h : r.receiving = false) (s : Step) :
    r.handledIn s = [] := by
  cases s with
  | arrive items =>
    exact (observe_of_stopped (fun r : Run => r.receiving = false)
      (fun _ a h => handles_of_stopped h a) (fun r a h => by rw [receive_of_stopped h, h])
      h items).1
  | _ => rfl

/-- Within one step, too, what was accepted precedes the first refusal. -/
theorem handledIn_takeWhile (r : Run) (s : Step) :
    (r.handledIn s).takeWhile Handled.accepted = (r.handledIn s).filter Handled.accepted := by
  cases s with
  | arrive items => exact (r.receiveAll_handled items).1
  | _ => rfl

/-- A step with a refusal on its record leaves no receiving task. -/
theorem step_of_refused (r : Run) (s : Step) :
    ∀ h ∈ r.handledIn s, h.accepted = false → (r.step s).receiving = false := by
  intro h hh hrefused
  cases s with
  | arrive items => exact settle_of_stopped ((r.receiveAll_handled items).2 h hh hrefused)
  | _ => exact absurd hh List.not_mem_nil

/-- What is handled up to the first refusal is all that is accepted, and as long as the receiving
task runs nothing was refused. -/
theorem handled_takeWhile (r : Run) (script : List Step) :
    (r.handled script).takeWhile Handled.accepted = (r.handled script).filter Handled.accepted ∧
      ∀ h ∈ r.handled script, h.accepted = false → (r.steps script).receiving = false := by
  unfold handled steps
  exact observe_takeWhile (fun r : Run => r.receiving = false)
    (fun _ s h => handledIn_of_stopped h s) (fun _ s h => step_of_stopped h s)
    handledIn_takeWhile step_of_refused r script

/-! ### The whole record -/

/-- No heartbeat is scheduled before the first response. -/
theorem begin_delays (lease : Int64) (down refusing : Bool) (timeout : Option Duration)
    (handler : Option Behaviour) (openFailure : Option Status) :
    (begin lease { down, refusing } timeout handler openFailure).session.delays = [] := by
  rcases begin_session lease { down, refusing } timeout handler openFailure with h | h
  · rw [h, Session.beat_delays]
    rfl
  · rw [h, Session.close_delays, Session.beat_delays]
    rfl

/-- **The heartbeats follow the responses.** After any script the delays that the scheduler accepted
are those of the responses handled while the session was open, up to the first one refused: half of
the time to live, rounded toward zero, and one second, never less than none. While the session is
open only the last of these heartbeats is not cancelled, and there is one as soon as a response was
handled and the receiving task goes on. Once the session is closed all are cancelled. -/
theorem heartbeats_follow_responses (lease : Int64) (down refusing : Bool)
    (timeout : Option Duration) (handler : Option Behaviour) (openFailure : Option Status)
    (script : List Step) :
    let start := begin lease { down, refusing } timeout handler openFailure
    let r := start.steps script
    let beats := r.session.scheduler.heartbeats
    beats.map Heartbeat.delay =
        ((start.handled script).takeWhile Handled.accepted).map (fun h =>
          Duration.ofSeconds (max (h.response.ttl.toInt.tdiv 2 + 1) 0).toNat) ∧
      (r.session.closed = false → r.released = false →
        (∀ b ∈ beats.dropLast, b.cancelled = true) ∧
          ∀ b ∈ beats.getLast?, b.cancelled = false) ∧
      (r.session.closed = true → ∀ b ∈ beats, b.cancelled = true) ∧
      (r.session.closed = false → r.receiving = true → start.handled script ≠ [] →
        beats.countP (fun b => !b.cancelled) = 1 ∧
          r.session.scheduled = some (beats.length - 1)) := by
  intro start r beats
  have hvalid : r.session.Valid :=
    valid_steps (valid_begin lease down refusing timeout handler openFailure) script
  obtain ⟨hwhile, hrefused⟩ := start.handled_takeWhile script
  have hdelays : beats.map Heartbeat.delay = acceptedDelays (start.handled script) := by
    have h := start.steps_delays script
    rwa [begin_delays, List.nil_append] at h
  refine ⟨?_, fun hopen _ => ⟨hvalid.cancelled_of_mem_dropLast, hvalid.live_of_getLast? hopen⟩,
    hvalid.cancelled_of_closed, fun hopen hreceiving hsome => ?_⟩
  -- The delay is the formula: turning into a natural number cuts off below zero like the maximum.
  · rw [hdelays, acceptedDelays, hwhile]
    refine List.map_congr_left fun h _ => ?_
    rw [heartbeatDelay]
    congr 1
    omega
  · -- The task still runs, so everything that was handled was accepted.
    have hall : ∀ h ∈ start.handled script, h.accepted = true := by
      intro h hh
      cases ha : h.accepted with
      | true => rfl
      | false =>
        have hstopped := hrefused h hh ha
        exact absurd (hreceiving.symm.trans hstopped) (by decide)
    have hne : beats ≠ [] := by
      intro hnil
      rw [hnil, acceptedDelays, List.filter_eq_self.2 hall, List.map_nil] at hdelays
      exact hsome (List.map_eq_nil_iff.1 hdelays.symm)
    exact ⟨hvalid.one_live hopen hne, hvalid.scheduled_of_open hopen hne⟩

/-- Four responses are handled, the last one while the scheduler turns heartbeats away; a fifth
finds no task any more. The first three have a heartbeat each, of which the last one is not
cancelled. -/
example :
    let response (ttl : Int64) : Arrival KeepAliveResponse := .response { id := 7, ttl }
    let script : List Step := [.arrive [response 10], .arrive [response 7, response (-3)],
      .refuse true, .arrive [response 10, response 10]]
    let start := begin 7 {} none none none
    (start.handled script).map Handled.accepted = [true, true, true, false] ∧
      (start.steps script).session.delays = [.ofSeconds 6, .ofSeconds 4, .ofSeconds 0] ∧
      (start.steps script).session.scheduler.heartbeats.map Heartbeat.cancelled =
        [true, true, false] := by decide

end Run
end KeepAlive
end EtcdClient
