import EtcdClient.Proofs.KeepAlive.Run
import EtcdClient.Proofs.Trace

/-
# The requests of a run

The server reads one request when the session starts and one for each heartbeat that fires and is
heard. `Run.firings` is the record of the firings, each heartbeat at most once, and a firing is
heard under three conditions:

| condition | otherwise |
| --- | --- |
| the server reads | nothing reaches it |
| the session is open | a closed session sends nothing |
| the session or its receiving task is held | the timer finds no session any more |

`requests_follow_firings` says that this is all the server reads, and when the stream of requests
ends. What arrives, is refused, times out or goes wrong in a handler never shows in the requests
(`step_requests`).

Source: `SPEC_FULL.md` §4.1, `send_heartbeat`, and §5 on cancellation.
-/

namespace EtcdClient

namespace Scheduler

/-- The heartbeat with a number was accepted and has run. -/
def Fired (s : Scheduler) (i : Nat) : Prop := ∃ b, s.heartbeats[i]? = some b ∧ b.fired = true

/-- Only what was scheduled can have run. -/
theorem Fired.lt_length {s : Scheduler} {i : Nat} (h : s.Fired i) : i < s.heartbeats.length := by
  obtain ⟨b, hb, -⟩ := h
  exact (List.getElem?_eq_some_iff.1 hb).1

/-- No heartbeat runs twice. -/
theorem Fired.not_canFire {s : Scheduler} {i : Nat} (h : s.Fired i) : s.canFire i = false := by
  obtain ⟨b, hb, hfired⟩ := h
  simp [canFire, hb, hfired]

/-- A heartbeat that may run counts as run once its number is marked. -/
theorem fired_markFired {s : Scheduler} {i : Nat} (h : s.canFire i = true) :
    (s.markFired i).Fired i := by
  unfold canFire at h
  split at h
  · next b hb => exact ⟨{ b with fired := true }, by simp [markFired, hb], rfl⟩
  · exact absurd h Bool.false_ne_true

end Scheduler

namespace KeepAlive

namespace Session

/-! ### What has run has run -/

/-- A response schedules and cancels heartbeats, and none that has run is forgotten over it. -/
theorem fired_rearm {s : Session} {i : Nat} (h : s.scheduler.Fired i) (ttl : Int64) :
    (s.rearm ttl).2.scheduler.Fired i := by
  cases ha : s.scheduler.accepts with
  | false =>
    rw [rearm_of_refuses ha]
    exact h
  | true =>
    have hlt := h.lt_length
    obtain ⟨b, hb, hfired⟩ := h
    rw [rearm_of_accepts ha]
    -- The heartbeat that is replaced is cancelled, which does not change that it ran.
    refine ⟨if s.scheduled = some i then { b with cancelled := true } else b, ?_, ?_⟩
    · rw [replaceHeartbeat_getElem?, Scheduler.push, List.getElem?_append_left hlt, hb]
      rfl
    · split <;> exact hfired

/-- The same of a close, which cancels and forgets nothing. -/
theorem fired_close {s : Session} {i : Nat} (h : s.scheduler.Fired i) :
    s.close.scheduler.Fired i := by
  unfold close
  split
  · exact h
  · obtain ⟨b, hb, hfired⟩ := h
    refine ⟨if s.scheduled = some i then { b with cancelled := true } else b, ?_, ?_⟩
    · rw [stopHeartbeats_getElem?, hb]
      rfl
    · split <;> exact hfired

/-- No operation takes a firing back. -/
theorem fired_perform {s : Session} {i : Nat} (h : s.scheduler.Fired i) (op : Operation) :
    (s.perform op).scheduler.Fired i := by
  -- A firing is a mark on a heartbeat, and marks are kept by whatever is done to the list.
  cases op with
  | beat =>
    simp only [perform, beat]
    split <;> exact h
  | rearm ttl => exact fired_rearm h ttl
  | deliver response =>
    simp only [perform, deliver]
    split
    · exact h
    · exact fired_rearm h response.ttl
  | close => exact fired_close h
  | markFired j =>
    obtain ⟨b, hb, hfired⟩ := h
    refine ⟨if j = i then { b with fired := true } else b, ?_, ?_⟩
    · simp [perform, Scheduler.markFired, List.getElem?_modify, hb]
    · split
      · rfl
      · exact hfired
  | shutdownScheduler => exact h
  | refuse r => exact h
  | hangUp => exact h

/-- By induction over the operations that lead from one session to the other. -/
theorem Reaches.fired {s t : Session} {i : Nat} (h : s.Reaches t) (hs : s.scheduler.Fired i) :
    t.scheduler.Fired i := by
  obtain ⟨ops, rfl⟩ := h
  induction ops generalizing s with
  | nil => exact hs
  | cons op ops ih => exact ih (fired_perform hs op)

/-! ### What the operations send -/

/-- Scheduling sends nothing: the request comes when the heartbeat fires. -/
@[simp] theorem rearm_requests (s : Session) (ttl : Int64) :
    (s.rearm ttl).2.requests = s.requests := by
  unfold rearm
  repeat' split
  all_goals rfl

/-- Nor does handling a response as a whole. -/
@[simp] theorem deliver_requests (s : Session) (response : KeepAliveResponse) :
    (s.deliver response).requests = s.requests := by
  unfold deliver
  split
  · rfl
  · exact rearm_requests _ _

/-- A close ends the stream of requests and adds nothing to it. -/
@[simp] theorem close_requests (s : Session) : s.close.requests = s.requests := by
  unfold close
  split <;> rfl

/-- An open session sends one request, if the server reads. -/
theorem Valid.beat_requests {s : Session} (h : s.Valid) :
    s.beat.requests = s.requests ++
      List.replicate (if s.listening && !s.closed then 1 else 0) (.leaseKeepAlive s.lease) := by
  have hsending := h.sending_eq
  unfold Session.beat
  cases hc : s.closed <;> cases hl : s.listening <;> simp [hc, hsending]

/-- A response renews the lease that the session was opened for. -/
@[simp] theorem rearm_lease (s : Session) (ttl : Int64) : (s.rearm ttl).2.lease = s.lease := by
  unfold rearm
  repeat' split
  all_goals rfl

/-- No operation turns to another lease. -/
@[simp] theorem perform_lease (s : Session) (op : Operation) : (s.perform op).lease = s.lease := by
  cases op with
  | beat => simp only [perform, beat]; split <;> rfl
  | rearm ttl => exact rearm_lease s ttl
  | deliver response =>
    simp only [perform, deliver]
    split
    · rfl
    · exact rearm_lease s response.ttl
  | close => simp only [perform, close]; split <;> rfl
  | _ => rfl

/-- The lease is the same along all operations. -/
theorem Reaches.lease_eq {s t : Session} (h : s.Reaches t) : t.lease = s.lease := by
  obtain ⟨ops, rfl⟩ := h
  induction ops generalizing s with
  | nil => rfl
  | cons op ops ih => rw [run_cons, ih, perform_lease]

end Session

/-- A heartbeat that fires, and whether the server hears of it. -/
structure Firing where
  number : Nat
  heard : Bool

namespace Run

/-- A step fires a heartbeat if one with its number was accepted and has not run, cancelled or not.
It is heard if the server reads, the session is open, and the session is still held. -/
def firing (r : Run) : Step → List Firing
  | .fire i =>
    if r.session.scheduler.canFire i then
      [⟨i, r.session.listening && !r.session.closed && (r.held || r.receiving)⟩]
    else []
  | _ => []

/-- The firings in the course of a script, in order. -/
def firings (r : Run) (script : List Step) : List Firing := observe step firing r script

/-- The requests are at their end: their sender was closed, or let go with the session. -/
def requestsEnded (r : Run) : Bool := !r.session.sending || r.released

/-! ### One request for each firing that is heard -/

/-- What a session makes of an arrival sends nothing. -/
theorem taken_requests (r : Run) (a : Arrival KeepAliveResponse) :
    (r.taken a).requests = r.session.requests := by
  cases a with
  | response response =>
    simp only [taken]
    split
    · exact Session.deliver_requests _ _
    · rfl
  | failure s => rfl
  | finish => rfl

/-- Nor does the telling of it. -/
theorem receive_requests (r : Run) (a : Arrival KeepAliveResponse) :
    (r.receive a).session.requests = r.session.requests := by
  rw [receive_eq_taken Session.close_requests, taken_requests]

/-- Nor do all the items of one step, by induction over them. -/
theorem receiveAll_requests (r : Run) (items : List (Arrival KeepAliveResponse)) :
    (items.foldl receive r).session.requests = r.session.requests := by
  induction items generalizing r with
  | nil => rfl
  | cons a items ih => rw [List.foldl_cons, ih, receive_requests]

/-- A heartbeat that fires sends a request if it is heard. -/
theorem act_fire_requests {r : Run} (h : r.session.Valid) (i : Nat) :
    (r.act (.fire i)).session.requests = r.session.requests ++
      List.replicate ((r.firing (.fire i)).countP Firing.heard)
        (.leaseKeepAlive r.session.lease) := by
  simp only [act, firing]
  split
  -- A heartbeat finds the session if the caller or the task holds it, and then it is up to the
  -- session whether anything is sent.
  · cases hreleased : r.released with
    | true =>
      have hheld : (r.held || r.receiving) = false := by
        simpa [released] using hreleased
      simp [hheld]
    | false =>
      have hheld : (r.held || r.receiving) = true := by
        cases hh : r.held <;> cases hr : r.receiving <;> simp [released, hh, hr] at hreleased ⊢
      have hbeat := (h.markFired i).beat_requests
      simpa [hheld, List.countP_singleton] using hbeat
  · simp

/-- An act sends one request for a firing that is heard, and otherwise nothing. -/
theorem act_requests {r : Run} (h : r.session.Valid) (s : Step) :
    (r.act s).session.requests = r.session.requests ++
      List.replicate ((r.firing s).countP Firing.heard) (.leaseKeepAlive r.session.lease) := by
  have hnone : r.session.requests = r.session.requests ++
      List.replicate (([] : List Firing).countP Firing.heard) (.leaseKeepAlive r.session.lease) :=
    (List.append_nil _).symm
  cases s with
  | arrive items => exact (r.receiveAll_requests items).trans hnone
  | advance d => exact hnone
  | fire i => exact act_fire_requests h i
  | shutdownScheduler => exact hnone
  | refuse b => exact hnone
  | close =>
    refine Eq.trans ?_ hnone
    simp only [act]
    split
    · exact Session.close_requests _
    · rfl
  | drop =>
    refine Eq.trans ?_ hnone
    simp only [act]
    split <;> rfl
  | hangUp => exact hnone
  | setHandler b => exact hnone

/-- Only a firing that is heard adds a request. -/
theorem step_requests {r : Run} (h : r.session.Valid) (s : Step) :
    (r.step s).session.requests = r.session.requests ++
      List.replicate ((r.firing s).countP Firing.heard) (.leaseKeepAlive r.session.lease) := by
  rw [step, settle_eq Session.close_requests, act_requests h]

/-- By induction over the script: there is one request for each firing heard so far, all of them
alike. -/
theorem steps_requests {r : Run} (h : r.session.Valid) (script : List Step) :
    (r.steps script).session.requests = r.session.requests ++
      List.replicate ((r.firings script).countP Firing.heard)
        (.leaseKeepAlive r.session.lease) := by
  -- The lease and the invariant are what each step may rely on.
  have hfold := foldl_eq_append_observe (fun t : Run => t.session.requests)
    (fun t => t.session.Valid ∧ t.session.lease = r.session.lease)
    (fun t s ht => ⟨ht.1.reaches (t.step_reaches s), (t.step_reaches s).lease_eq.trans ht.2⟩)
    (f := fun fs => List.replicate (fs.countP Firing.heard) (.leaseKeepAlive r.session.lease))
    rfl (fun xs ys => by rw [List.countP_append, List.replicate_append_replicate])
    (fun t s ht => by rw [step_requests ht.1, ht.2]) ⟨h, rfl⟩ script
  exact hfold

/-! ### Each heartbeat fires at most once -/

/-- What is recorded as a firing could fire, and cannot after it. -/
theorem fired_of_firing {r : Run} {s : Step} {f : Firing} (h : f ∈ r.firing s) :
    r.session.scheduler.canFire f.number = true ∧
      (r.step s).session.scheduler.Fired f.number := by
  cases s with
  | fire i =>
    simp only [firing] at h
    split at h
    · next hcan =>
      rw [List.mem_singleton] at h
      subst h
      -- It fires by being marked, and what follows takes no mark off.
      have hmarked : (r.session.perform (.markFired i)).scheduler.Fired i :=
        Scheduler.fired_markFired hcan
      have hact : (r.session.perform (.markFired i)).Reaches (r.act (.fire i)).session := by
        simp only [act, if_pos hcan]
        split
        · exact .refl _
        · exact Session.reaches_perform _ .beat
      have hstep := Session.reaches_of_eq_or_close hact (settle_session _)
      exact ⟨hcan, hstep.fired hmarked⟩
    · exact absurd h List.not_mem_nil
  | _ => exact absurd h List.not_mem_nil

/-- By induction over the script: a heartbeat on the record has run for good. -/
theorem fired_of_firings {r : Run} {script : List Step} :
    ∀ f ∈ r.firings script, (r.steps script).session.scheduler.Fired f.number := by
  induction script generalizing r with
  | nil => intro f hf; exact absurd hf List.not_mem_nil
  | cons s script ih =>
    intro f hf
    rw [firings, observe, List.mem_append] at hf
    rcases hf with hf | hf
    · exact ((r.step s).steps_reaches script).fired (fired_of_firing hf).2
    · exact ih f hf

/-- A heartbeat that has run does not fire again. -/
theorem not_fired_of_firings {r : Run} {script : List Step} :
    ∀ f ∈ r.firings script, ¬ r.session.scheduler.Fired f.number := by
  induction script generalizing r with
  | nil => intro f hf; exact absurd hf List.not_mem_nil
  | cons s script ih =>
    intro f hf hfired
    rw [firings, observe, List.mem_append] at hf
    rcases hf with hf | hf
    · have hcan := (fired_of_firing hf).1
      rw [hfired.not_canFire] at hcan
      exact Bool.false_ne_true hcan
    · exact ih f hf ((r.step_reaches s).fired hfired)

/-- A step fires one heartbeat at most. -/
theorem firing_nodup (r : Run) (s : Step) : ((r.firing s).map Firing.number).Nodup := by
  cases s with
  | fire i =>
    simp only [firing]
    split
    · exact List.pairwise_singleton _ _
    · exact List.nodup_nil
  | _ => exact List.nodup_nil

/-- The record has each heartbeat at most once, as one that has run cannot fire. -/
theorem firings_nodup (r : Run) (script : List Step) :
    ((r.firings script).map Firing.number).Nodup := by
  induction script generalizing r with
  | nil => exact List.nodup_nil
  | cons s script ih =>
    rw [firings, observe, List.map_append, List.nodup_append]
    refine ⟨r.firing_nodup s, ih (r.step s), ?_⟩
    intro i hi j hj hij
    obtain ⟨f, hf, rfl⟩ := List.mem_map.1 hi
    obtain ⟨g, hg, rfl⟩ := List.mem_map.1 hj
    -- What fires in this step has run when the rest of the script begins.
    exact not_fired_of_firings g hg (hij ▸ (fired_of_firing hf).2)

/-! ### The end of the requests -/

/-- A session is released once neither its caller nor its receiving task has a hold of it. -/
theorem released_iff (r : Run) : r.released = true ↔ r.held = false ∧ r.receiving = false := by
  simp [released]

/-- The stream of requests ends with a close, or with the last of those who hold the session. -/
theorem requestsEnded_iff {r : Run} (h : r.session.Valid) :
    r.requestsEnded = true ↔ r.session.closed = true ∨ r.released = true := by
  rw [requestsEnded, h.sending_eq, Bool.not_not, Bool.or_eq_true]

/-- The requests do not begin again, and nothing is read after their end. -/
theorem step_of_requestsEnded {r : Run} (h : r.session.Valid) (hend : r.requestsEnded = true)
    (s : Step) :
    (r.step s).requestsEnded = true ∧ (r.step s).session.requests = r.session.requests := by
  have hvalid := h.reaches (r.step_reaches s)
  rw [requestsEnded_iff h, released_iff] at hend
  rw [requestsEnded_iff hvalid, released_iff]
  -- A firing is not heard by a session that is closed, nor by one that nothing holds.
  have hunheard : (r.firing s).countP Firing.heard = 0 := by
    rw [List.countP_eq_zero]
    intro f hf
    cases s with
    | fire i =>
      simp only [firing] at hf
      split at hf
      · rw [List.mem_singleton] at hf
        rcases hend with hclosed | ⟨hheld, hstopped⟩
        · simp [hf, hclosed]
        · simp [hf, hheld, hstopped]
      · exact absurd hf List.not_mem_nil
    | _ => exact absurd hf List.not_mem_nil
  have hrequests := step_requests h s
  rw [hunheard, List.replicate_zero, List.append_nil] at hrequests
  refine ⟨?_, hrequests⟩
  -- What ended the requests cannot be undone: no session opens again, and no one who let go holds
  -- it again.
  rcases hend with hclosed | ⟨hheld, hstopped⟩
  · exact .inl ((r.step_reaches s).closed h hclosed)
  · exact .inr ⟨step_of_let_go hheld s, step_of_stopped hstopped s⟩

/-- An end is final: no step sends anything after it. -/
theorem steps_of_requestsEnded {r : Run} (h : r.session.Valid) (hend : r.requestsEnded = true)
    (script : List Step) :
    (r.steps script).requestsEnded = true ∧
      (r.steps script).session.requests = r.session.requests := by
  induction script generalizing r with
  | nil => exact ⟨hend, rfl⟩
  | cons s script ih =>
    obtain ⟨hend', hrequests⟩ := step_of_requestsEnded h hend s
    obtain ⟨hlast, hsame⟩ := ih (h.reaches (r.step_reaches s)) hend'
    exact ⟨hlast, hsame.trans hrequests⟩

/-- A session whose stream opens sends its first heartbeat, however its start ends. -/
theorem begin_requests (lease : Int64) (down refusing : Bool) (timeout : Option Duration)
    (handler : Option Behaviour) :
    (begin lease { down, refusing } timeout handler none).session.requests =
        [.leaseKeepAlive lease] ∧
      (begin lease { down, refusing } timeout handler none).session.lease = lease := by
  rcases begin_session lease { down, refusing } timeout handler none with h | h
  · rw [h]
    exact ⟨rfl, rfl⟩
  · rw [h]
    exact ⟨rfl, rfl⟩

/-- **The requests follow the firings.** Once the stream of a session is open the server reads its
first heartbeat and one for each firing that is heard, and no step but such a firing adds one. No
heartbeat fires twice. The requests end exactly when the session is closed or nothing holds it any
more, and for good. -/
theorem requests_follow_firings (lease : Int64) (down refusing : Bool) (timeout : Option Duration)
    (handler : Option Behaviour) (script : List Step) :
    let start := begin lease { down, refusing } timeout handler none
    let r := start.steps script
    let fired := start.firings script
    r.session.requests =
        List.replicate (1 + fired.countP Firing.heard) (.leaseKeepAlive lease) ∧
      (fired.map Firing.number).Nodup ∧
      (∀ f ∈ fired, f.number < r.session.scheduler.heartbeats.length) ∧
      (∀ s : Step, (∀ i, s ≠ .fire i) → (r.step s).session.requests = r.session.requests) ∧
      (r.requestsEnded = true ↔ r.session.closed = true ∨ r.released = true) ∧
      r.sendEnded = (r.session.listening && r.requestsEnded) ∧
      (r.requestsEnded = true → ∀ later, (r.steps later).requestsEnded = true ∧
        (r.steps later).session.requests = r.session.requests) := by
  intro start r fired
  have hbegin : start.session.Valid := valid_begin lease down refusing timeout handler none
  have hvalid : r.session.Valid := valid_steps hbegin script
  obtain ⟨hfirst, hlease⟩ := begin_requests lease down refusing timeout handler
  refine ⟨?_, start.firings_nodup script, fun f hf => (fired_of_firings f hf).lt_length,
    fun s hs => ?_, requestsEnded_iff hvalid, ?_, fun hend => steps_of_requestsEnded hvalid hend⟩
  · rw [steps_requests hbegin script, hfirst, hlease, Nat.add_comm, List.replicate_succ]
    rfl
  · have hquiet : r.firing s = [] := by
      cases s with
      | fire i => exact absurd rfl (hs i)
      | _ => rfl
    rw [step_requests hvalid s, hquiet]
    exact List.append_nil _
  · rw [sendEnded, requestsEnded, hvalid.sending_eq, Bool.not_not]

/-- Two firings are heard, also that of the heartbeat that was cancelled, and each one sends a
request after the first. A second firing of a heartbeat is none, and one after the close is not
heard. -/
example :
    let response : Arrival KeepAliveResponse := .response { id := 7, ttl := 10 }
    let script : List Step := [.arrive [response, response, response], .fire 1, .fire 0, .fire 1,
      .close, .fire 2]
    let start := begin 7 {} none none none
    start.firings script = [⟨1, true⟩, ⟨0, true⟩, ⟨2, false⟩] ∧
      (start.steps script).session.requests.length = 3 ∧
      (start.steps script).requestsEnded = true := ⟨rfl, rfl, rfl⟩

end Run
end KeepAlive
end EtcdClient
