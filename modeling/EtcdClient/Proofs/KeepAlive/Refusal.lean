import EtcdClient.Proofs.KeepAlive.Requests

/-
# Refused heartbeats

A scheduler may turn a heartbeat away. That is an error while the session is open and nothing at
all once it is closed, since closing a session shuts its scheduler down. `rearm_cases` has the three
answers that a session gets:

| scheduler | session | answer | session afterwards |
| --- | --- | --- | --- |
| accepts | – | none | its heartbeat is moved |
| refuses | closed | none | as before |
| refuses | open | `schedulerRejected` | as before |

As long as nobody else disturbs the scheduler, it refuses only what comes after a close
(`Served.perform`), so the last case never arises. The receiving task looks whether the session is
open before it rearms, and anything may happen between the two. `Looker` takes these two steps
apart, and a close between them makes no error either (`Looker.answers_of_undisturbed`).

Source: `SPEC_FULL.md` §4.1 on failure semantics: a refusal is swallowed just if the session is
closed, which `rearm` and `close` settle under one lock.
-/

namespace EtcdClient
namespace KeepAlive

/-- Somebody other than the session makes its scheduler turn heartbeats away. -/
def Operation.disturbs : Operation → Bool
  | .shutdownScheduler => true
  | .refuse b => b
  | _ => false

namespace Session

variable {s : Session}

/-- The answers to a rearm. -/
theorem rearm_cases (s : Session) (ttl : Int64) :
    (s.scheduler.accepts = true ∧ (s.rearm ttl).1 = .ok ()) ∨
      (s.scheduler.accepts = false ∧ s.closed = true ∧ s.rearm ttl = (.ok (), s)) ∨
      (s.scheduler.accepts = false ∧ s.closed = false ∧
        s.rearm ttl = (.error (.schedulerRejected s.lease), s)) := by
  cases ha : s.scheduler.accepts with
  | true => exact .inl ⟨rfl, by rw [rearm_of_accepts ha]⟩
  | false =>
    cases hc : s.closed with
    | true => exact .inr (.inl ⟨rfl, rfl, by simp [rearm, ha, hc]⟩)
    | false => exact .inr (.inr ⟨rfl, rfl, by simp [rearm, ha, hc]⟩)

/-- The scheduler turns heartbeats away for one reason only, that the session is closed. -/
structure Served (s : Session) : Prop where
  willing : s.scheduler.refusing = false
  closed_of_down : s.scheduler.down = true → s.closed = true

namespace Served

/-- A scheduler that accepts turns nothing away. -/
theorem of_accepts (h : s.scheduler.accepts = true) : s.Served := by
  have hboth : s.scheduler.down = false ∧ s.scheduler.refusing = false := by
    simpa [Scheduler.accepts] using h
  exact ⟨hboth.2, fun hdown => absurd (hdown.symm.trans hboth.1) (by decide)⟩

/-- If it refuses all the same, the session is closed. -/
theorem closed_of_refuses (h : s.Served) (ha : s.scheduler.accepts = false) : s.closed = true := by
  refine h.closed_of_down ?_
  simpa [Scheduler.accepts, h.willing] using ha

/-- A rearm is never an error then. -/
theorem rearm_ok (h : s.Served) (ttl : Int64) : (s.rearm ttl).1 = .ok () := by
  rcases s.rearm_cases ttl with ⟨-, hok⟩ | ⟨-, -, heq⟩ | ⟨ha, hopen, -⟩
  · exact hok
  · rw [heq]
  · exact absurd ((h.closed_of_refuses ha).symm.trans hopen) (by decide)

/-- A rearm leaves it ready for the next one. -/
theorem rearm (h : s.Served) (ttl : Int64) : (s.rearm ttl).2.Served := by
  cases ha : s.scheduler.accepts with
  | false => rwa [rearm_of_refuses ha]
  | true =>
    rw [rearm_of_accepts ha]
    unfold replaceHeartbeat
    split <;> exact ⟨h.willing, h.closed_of_down⟩

/-- A close takes the scheduler down and closes the session with it. -/
theorem close (h : s.Served) : s.close.Served := by
  unfold Session.close
  split
  · exact h
  · refine ⟨?_, fun _ => rfl⟩
    show s.stopHeartbeats.refusing = false
    unfold stopHeartbeats
    split <;> exact h.willing

/-- **Only a disturbance from outside makes a scheduler refuse an open session.** -/
theorem perform (h : s.Served) {op : Operation} (hop : op.disturbs = false) :
    (s.perform op).Served := by
  cases op with
  | beat =>
    simp only [Session.perform, beat]
    split <;> exact ⟨h.willing, h.closed_of_down⟩
  | rearm ttl => exact h.rearm ttl
  | deliver response =>
    simp only [Session.perform, deliver]
    split
    · exact h
    · exact h.rearm response.ttl
  | close => exact h.close
  | markFired i => exact ⟨h.willing, h.closed_of_down⟩
  | shutdownScheduler => exact absurd hop (by decide)
  | refuse b => exact ⟨hop, h.closed_of_down⟩
  | hangUp => exact ⟨h.willing, h.closed_of_down⟩

/-- By induction over operations of which none disturbs the scheduler. -/
theorem run (h : s.Served) {ops : List Operation} (hops : ∀ op ∈ ops, op.disturbs = false) :
    (s.run ops).Served := by
  induction ops generalizing s with
  | nil => exact h
  | cons op ops ih =>
    obtain ⟨hop, hrest⟩ := List.forall_mem_cons.1 hops
    exact ih (h.perform hop) hrest

end Served
end Session

/-! ### A receiving task that is interrupted -/

/-- A session whose receiving task may stand between its look at the session and its rearm. -/
structure Looker where
  session : Session
  /-- The response that the task found the session open for and has not rearmed for yet. -/
  inHand : Option KeepAliveResponse := none
  /-- The answers that the task got to its rearms. -/
  answers : List (Result Unit) := []

/-- What happens next around a session, done at once. -/
inductive Turn
  /-- Somebody else does something to the session. -/
  | other (op : Operation)
  /-- The task is handed a response and keeps it if the session is open. -/
  | look (response : KeepAliveResponse)
  /-- The task rearms for the response that it keeps. -/
  | rearm

/-- Somebody other than the session makes its scheduler turn heartbeats away. -/
def Turn.disturbs : Turn → Bool
  | .other op => op.disturbs
  | _ => false

namespace Looker

/-- One turn. -/
def turn (l : Looker) : Turn → Looker
  | .other op => { l with session := l.session.perform op }
  | .look response =>
    if l.inHand.isNone && !l.session.closed then { l with inHand := some response } else l
  | .rearm =>
    match l.inHand with
    | some response =>
      { session := (l.session.rearm response.ttl).2
        inHand := none
        answers := l.answers ++ [(l.session.rearm response.ttl).1] }
    | none => l

/-- No turn of the task disturbs the scheduler: it looks, and it rearms. -/
theorem turn_served {l : Looker} (h : l.session.Served) {t : Turn} (ht : t.disturbs = false) :
    (l.turn t).session.Served := by
  cases t with
  | other op => exact h.perform ht
  | look response =>
    simp only [turn]
    split <;> exact h
  | rearm =>
    simp only [turn]
    split
    · exact h.rearm _
    · exact h

/-- A rearm is answered with success as long as the scheduler turns heartbeats away of closed
sessions only: then the session was closed in the meantime, which is no error. -/
theorem turn_answers {l : Looker} (h : l.session.Served) (t : Turn)
    (hanswers : ∀ a ∈ l.answers, a = .ok ()) : ∀ a ∈ (l.turn t).answers, a = .ok () := by
  cases t with
  | other op => exact hanswers
  | look response =>
    simp only [turn]
    split <;> exact hanswers
  | rearm =>
    simp only [turn]
    split
    · next response _ =>
      intro a ha
      rcases List.mem_append.1 ha with ha | ha
      · exact hanswers a ha
      · rw [List.mem_singleton.1 ha, h.rearm_ok]
    · exact hanswers

/-- No order of turns gets the receiving task an error, wherever a close falls. -/
theorem answers_of_undisturbed {l : Looker} (h : l.session.Served)
    (hanswers : ∀ a ∈ l.answers, a = .ok ()) {turns : List Turn}
    (hturns : ∀ t ∈ turns, t.disturbs = false) :
    ∀ a ∈ (turns.foldl turn l).answers, a = .ok () := by
  induction turns generalizing l with
  | nil => exact hanswers
  | cons t turns ih =>
    obtain ⟨ht, hrest⟩ := List.forall_mem_cons.1 hturns
    exact ih (turn_served h ht) (turn_answers h t hanswers) hrest

end Looker

namespace Session

/-- **A refusal is an error exactly while the session is open.** Whatever was done to a session
before, a rearm answers with `schedulerRejected` if and only if the scheduler refuses and the
session is open, it answers with no other error, and the session is then as it was. A refusal after
a close is no error. If the scheduler was ready at first and nobody but the session disturbs it,
then no order of operations makes an error, nor does a receiving task get one that is interrupted
between its look at the session and its rearm. -/
theorem rejected_iff_refused_while_open (lease : Int64) (scheduler : Scheduler)
    (before : List Operation) (ttl : Int64) :
    let s := run { lease, scheduler } before
    ((s.rearm ttl).1 = .error (.schedulerRejected lease) ↔
        s.scheduler.accepts = false ∧ s.closed = false) ∧
      (∀ e, (s.rearm ttl).1 = .error e → e = .schedulerRejected lease ∧ (s.rearm ttl).2 = s) ∧
      (s.scheduler.accepts = false → s.closed = true → (s.rearm ttl).1 = .ok ()) ∧
      (scheduler.accepts = true →
        ((∀ op ∈ before, op.disturbs = false) → (s.rearm ttl).1 = .ok ()) ∧
        ∀ turns : List Turn, (∀ t ∈ turns, t.disturbs = false) →
          ∀ a ∈ (turns.foldl Looker.turn { session := { lease, scheduler } }).answers,
            a = .ok ()) := by
  intro s
  have hlease : s.lease = lease := Reaches.lease_eq ⟨before, rfl⟩
  -- The three cases of a rearm: accepted, refused after a close, and refused while open.
  refine ⟨?_, ?_, ?_, fun ha => ⟨fun hundisturbed => ?_, fun turns hturns => ?_⟩⟩
  · rcases s.rearm_cases ttl with ⟨ha, hok⟩ | ⟨ha, hclosed, heq⟩ | ⟨ha, hopen, heq⟩
    · simp [hok, ha]
    · simp [heq, hclosed]
    · simp [heq, ha, hopen, hlease]
  · intro e he
    rcases s.rearm_cases ttl with ⟨-, hok⟩ | ⟨-, -, heq⟩ | ⟨-, -, heq⟩
    · exact absurd (hok.symm.trans he) (by simp)
    · rw [heq] at he
      exact absurd he (by simp)
    · rw [heq] at he ⊢
      exact ⟨by rw [← Except.error.inj he, hlease], rfl⟩
  · intro ha hclosed
    rcases s.rearm_cases ttl with ⟨-, hok⟩ | ⟨-, -, heq⟩ | ⟨-, hopen, -⟩
    · exact hok
    · rw [heq]
    · exact absurd (hclosed.symm.trans hopen) (by decide)
  · exact ((Served.of_accepts ha).run hundisturbed).rearm_ok ttl
  · exact Looker.answers_of_undisturbed (Served.of_accepts ha)
      (fun a hmem => absurd hmem List.not_mem_nil) hturns

/-- The session is closed while the task has a response in hand, and the rearm is no error. -/
example : ([.look { id := 7, ttl := 10 }, .other .close, .rearm].foldl Looker.turn
    { session := { lease := 7 } }).answers = [.ok ()] := rfl

end Session
end KeepAlive
end EtcdClient
