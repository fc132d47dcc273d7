import EtcdClient.KeepAlive.Run
import EtcdClient.Proofs.KeepAlive.Session

/-
# What the steps of a run do to its session

Everything that happens in a run reaches the session through its operations (`step_reaches`), so
what every order of operations leaves true holds along every run (`valid_steps`). What each part
of a step does is said once:

| part | what it makes of the session |
| --- | --- |
| telling the handler, failing, settling | the same, or it closes it |
| taking what arrived | a delivery if the task still receives, then the same or closed |
| anything else | one or two operations |

The receiving task that has ended, and the session that was let go, stay so.

Source: the parts of a run as `SPEC_FULL.md` §10.4 has them.
-/

namespace EtcdClient
namespace KeepAlive

namespace Session

/-- `t` is what some operations make of `s`. -/
def Reaches (s t : Session) : Prop := ∃ ops, t = s.run ops

/-- A session is reached from itself, from there through a third one, and by every operation. -/
theorem Reaches.refl (s : Session) : s.Reaches s := ⟨[], rfl⟩

/-- What is reached from there is reached from here. -/
theorem Reaches.trans {s t u : Session} (h : s.Reaches t) (h' : t.Reaches u) : s.Reaches u := by
  obtain ⟨first, rfl⟩ := h
  obtain ⟨second, rfl⟩ := h'
  exact ⟨first ++ second, (s.run_append first second).symm⟩

/-- One operation reaches what it leaves. -/
theorem reaches_perform (s : Session) (op : Operation) : s.Reaches (s.perform op) := ⟨[op], rfl⟩

/-- What holds of a session that came about by operations holds of those that it reaches. -/
theorem Valid.reaches {s t : Session} (hs : s.Valid) (h : s.Reaches t) : t.Valid := by
  obtain ⟨ops, rfl⟩ := h
  exact hs.run ops

/-- A closed session stays closed, whatever is done to it. -/
theorem Reaches.closed {s t : Session} (h : s.Reaches t) (hs : s.Valid)
    (hclosed : s.closed = true) : t.closed = true := by
  obtain ⟨ops, rfl⟩ := h
  exact (run_of_closed hs hclosed ops).1

/-- A session that is still open was open before. -/
theorem Reaches.opened {s t : Session} (h : s.Reaches t) (hs : s.Valid)
    (hopen : t.closed = false) : s.closed = false := by
  rw [← Bool.not_eq_true] at hopen ⊢
  exact fun hclosed => hopen (h.closed hs hclosed)

/-- Where a session may be closed in addition, both are reached. -/
theorem reaches_of_eq_or_close {s t u : Session} (hs : s.Reaches t) (h : u = t ∨ u = t.close) :
    s.Reaches u := by
  rcases h with rfl | rfl
  · exact hs
  · exact hs.trans (t.reaches_perform .close)

end Session

namespace Run

/-- A run after a script. -/
def steps (r : Run) (script : List Step) : Run := script.foldl step r

/-- A script is played in parts, of any length or one step at a time. -/
theorem steps_append (r : Run) (script more : List Step) :
    r.steps (script ++ more) = (r.steps script).steps more :=
  List.foldl_append

/-- The last step of a script is taken last. -/
theorem steps_concat (r : Run) (script : List Step) (s : Step) :
    r.steps (script ++ [s]) = (r.steps script).step s :=
  r.steps_append script [s]

/-! ### The parts of a step -/

/-- An outcome is noted by the run and not by the session. -/
@[simp] theorem decide_session (r : Run) (o : Result Int64) :
    (r.decide o).session = r.session := rfl

/-- A handler leaves the session as it is or closes it. -/
theorem tell_session (r : Run) (listener : Listener) (c : Callback KeepAliveResponse) :
    (r.tell listener c).session = r.session ∨ (r.tell listener c).session = r.session.close := by
  unfold tell
  split
  · exact .inl rfl
  · dsimp only
    split
    · split
      · exact .inr rfl
      · exact .inl rfl
    · exact .inl rfl

/-- To fail is to tell the handler of it, which may close the session. -/
theorem fail_session (r : Run) (e : ClientError) :
    (r.fail e).session = r.session ∨ (r.fail e).session = r.session.close :=
  tell_session _ _ _

/-- The session once a response has been handed to it, before anybody is told. -/
def taken (r : Run) : Arrival KeepAliveResponse → Session
  | .response response => if r.receiving then r.session.deliver response else r.session
  | _ => r.session

/-- An open session takes a response by moving its next heartbeat. -/
theorem handle_session (r : Run) (response : KeepAliveResponse) :
    (r.handle response).session = (r.session.rearm response.ttl).2 ∨
      (r.handle response).session = (r.session.rearm response.ttl).2.close := by
  unfold handle
  dsimp only [decide_session]
  split
  · next hrearm =>
    rw [hrearm]
    exact tell_session _ _ _
  · next hrearm =>
    rw [hrearm]
    exact fail_session _ _

/-- **What arrives rearms the session at most, and may have the handler close it.** -/
theorem receive_session (r : Run) (a : Arrival KeepAliveResponse) :
    (r.receive a).session = r.taken a ∨ (r.receive a).session = (r.taken a).close := by
  unfold receive
  cases hr : r.receiving with
  | false => cases a <;> simp [taken, hr]
  | true =>
    cases hc : r.session.closed with
    | true => cases a <;> simp [taken, hr, hc, Session.deliver]
    | false =>
      cases a with
      | response response => simpa [taken, hr, hc, Session.deliver] using handle_session r response
      | failure s => simpa [taken] using fail_session r (.grpc s)
      | finish => exact .inl rfl

/-- The start stays as it is, hands the session out or gives it up. -/
theorem decideStart_cases (r : Run) :
    r.decideStart = r ∨ r.decideStart = { r with start := .ready r.session.lease } ∨
      ∃ e, r.decideStart = r.giveUp e := by
  unfold decideStart
  split
  · split
    · split
      · exact .inr (.inl rfl)
      · exact .inr (.inr ⟨_, rfl⟩)
    · exact .inr (.inr ⟨_, rfl⟩)
    · split
      · split
        · exact .inr (.inr ⟨_, rfl⟩)
        · exact .inl rfl
      · exact .inl rfl
  · exact .inl rfl

/-- A start that fails closes the session. -/
theorem decideStart_session (r : Run) :
    r.decideStart.session = r.session ∨ r.decideStart.session = r.session.close := by
  rcases r.decideStart_cases with h | h | ⟨e, h⟩
  · exact .inl (by rw [h])
  · exact .inl (by rw [h])
  · exact .inr (by rw [h]; rfl)

/-- So all that happens by itself to a session is that it is closed. -/
theorem settle_session (r : Run) :
    r.settle.session = r.session ∨ r.settle.session = r.session.close :=
  r.decideStart_session

/-! ### What a close leaves as it is -/

/-- Of what a close does not touch, a response that is taken is all that counts. -/
theorem receive_eq_taken {γ : Type} {g : Session → γ} (hclose : ∀ s : Session, g s.close = g s)
    (r : Run) (a : Arrival KeepAliveResponse) : g (r.receive a).session = g (r.taken a) := by
  rcases r.receive_session a with h | h
  · rw [h]
  · rw [h, hclose]

/-- What a close leaves alone is left alone by all that happens by itself. -/
theorem settle_eq {γ : Type} {g : Session → γ} (hclose : ∀ s : Session, g s.close = g s)
    (r : Run) : g r.settle.session = g r.session := by
  rcases r.settle_session with h | h
  · rw [h]
  · rw [h, hclose]

/-! ### Every step goes through the operations -/

/-- What arrives is operations on the session. -/
theorem receive_reaches (r : Run) (a : Arrival KeepAliveResponse) :
    r.session.Reaches (r.receive a).session := by
  have htaken : r.session.Reaches (r.taken a) := by
    cases a with
    | response response =>
      simp only [taken]
      split
      · exact r.session.reaches_perform (.deliver response)
      · exact .refl _
    | failure s => exact .refl _
    | finish => exact .refl _
  exact Session.reaches_of_eq_or_close htaken (r.receive_session a)

/-- So is all that arrives in one step. -/
theorem receiveAll_reaches (r : Run) (items : List (Arrival KeepAliveResponse)) :
    r.session.Reaches (items.foldl receive r).session := by
  induction items generalizing r with
  | nil => exact .refl _
  | cons a items ih => exact (r.receive_reaches a).trans (ih (r.receive a))

/-- **A step is operations on the session,** and so is a script: every invariant of sessions is one
of runs. -/
theorem act_reaches (r : Run) (s : Step) : r.session.Reaches (r.act s).session := by
  cases s with
  | arrive items => exact r.receiveAll_reaches items
  | advance d => exact .refl _
  | fire i =>
    simp only [act]
    split
    · dsimp only
      split
      · exact r.session.reaches_perform (.markFired i)
      · exact ⟨[.markFired i, .beat], rfl⟩
    · exact .refl _
  | shutdownScheduler => exact r.session.reaches_perform .shutdownScheduler
  | refuse b => exact r.session.reaches_perform (.refuse b)
  | close =>
    simp only [act]
    split
    · exact r.session.reaches_perform .close
    · exact .refl _
  | drop =>
    simp only [act]
    split
    · exact .refl _
    · exact .refl _
  | hangUp => exact r.session.reaches_perform .hangUp
  | setHandler b => exact .refl _

/-- **A run changes its session only through the operations.** -/
theorem step_reaches (r : Run) (s : Step) : r.session.Reaches (r.step s).session :=
  Session.reaches_of_eq_or_close (r.act_reaches s) (settle_session _)

/-- A script is operations on the session. -/
theorem steps_reaches (r : Run) (script : List Step) :
    r.session.Reaches (r.steps script).session := by
  induction script generalizing r with
  | nil => exact .refl _
  | cons s script ih => exact (r.step_reaches s).trans (ih (r.step s))

/-- A run that begins sends the first heartbeat, and closes the session if its start fails. -/
theorem begin_session (lease : Int64) (scheduler : Scheduler) (timeout : Option Duration)
    (handler : Option Behaviour) (openFailure : Option Status) :
    (begin lease scheduler timeout handler openFailure).session =
        Session.beat { lease, scheduler } ∨
      (begin lease scheduler timeout handler openFailure).session =
        (Session.beat { lease, scheduler }).close := by
  unfold begin
  cases openFailure with
  | some s => exact .inr rfl
  | none => exact settle_session _

/-- A run from its start on, with a scheduler that has accepted nothing yet. -/
theorem valid_begin (lease : Int64) (down refusing : Bool) (timeout : Option Duration)
    (handler : Option Behaviour) (openFailure : Option Status) :
    (begin lease { down, refusing } timeout handler openFailure).session.Valid := by
  have hbeat := (Session.valid_fresh lease down refusing).beat
  rcases begin_session lease { down, refusing } timeout handler openFailure with h | h
  · rw [h]
    exact hbeat
  · rw [h]
    exact hbeat.close

/-- The invariant of sessions holds after every script. -/
theorem valid_steps {r : Run} (h : r.session.Valid) (script : List Step) :
    (r.steps script).session.Valid :=
  h.reaches (r.steps_reaches script)

/-! ### What has ended stays so -/

/-- Only a caller lets go of a session, and none is let go by what arrives. -/
@[simp] theorem tell_held (r : Run) (listener : Listener) (c : Callback KeepAliveResponse) :
    (r.tell listener c).held = r.held := by
  unfold tell
  split <;> rfl

/-- A failure does not make the caller let go. -/
@[simp] theorem fail_held (r : Run) (e : ClientError) : (r.fail e).held = r.held :=
  tell_held _ _ _

/-- Nothing is received without a task. -/
theorem receive_of_stopped {r : Run} (h : r.receiving = false) (a : Arrival KeepAliveResponse) :
    r.receive a = r := by
  simp [receive, h]

/-- Nor does anything that arrives. -/
@[simp] theorem receive_held (r : Run) (a : Arrival KeepAliveResponse) :
    (r.receive a).held = r.held := by
  unfold receive
  split
  · cases a with
    | response response =>
      simp only [handle]
      split
      · exact tell_held _ _ _
      · exact fail_held _ _
    | failure s => exact fail_held _ _
    | finish => rfl
  · rfl

/-- A start ends the task through the close, when all settles. -/
@[simp] theorem decideStart_receiving (r : Run) : r.decideStart.receiving = r.receiving := by
  rcases r.decideStart_cases with h | h | ⟨e, h⟩ <;> rw [h]
  rfl

/-- A task that has ended is not started again, nor is a session taken up that was let go. -/
theorem settle_of_stopped {r : Run} (h : r.receiving = false) : r.settle.receiving = false := by
  simp [settle, h]

/-- Settling gives no session back to a caller that has let it go. -/
theorem settle_of_let_go {r : Run} (h : r.held = false) : r.settle.held = false := by
  show r.decideStart.held = false
  rcases r.decideStart_cases with hr | hr | ⟨e, hr⟩
  · rw [hr, h]
  · rw [hr]
    exact h
  · rw [hr]
    rfl

/-- No step starts the task again. -/
theorem act_of_stopped {r : Run} (h : r.receiving = false) (s : Step) :
    (r.act s).receiving = false := by
  cases s with
  | arrive items =>
    simp only [act]
    induction items with
    | nil => exact h
    | cons a items ih => rwa [List.foldl_cons, receive_of_stopped h]
  | advance d => exact h
  | fire i => simp only [act]; split <;> exact h
  | shutdownScheduler => exact h
  | refuse b => exact h
  | close => simp only [act]; split <;> exact h
  | drop => simp only [act]; split <;> exact h
  | hangUp => exact h
  | setHandler b => exact h

/-- No step takes up the session again. -/
theorem act_of_let_go {r : Run} (h : r.held = false) (s : Step) : (r.act s).held = false := by
  cases s with
  | arrive items =>
    simp only [act]
    induction items generalizing r with
    | nil => exact h
    | cons a items ih => exact ih (r := r.receive a) (by rw [receive_held, h])
  | advance d => exact h
  | fire i => simp only [act]; split <;> exact h
  | shutdownScheduler => exact h
  | refuse b => exact h
  | close => simp only [act]; split <;> exact h
  | drop =>
    simp only [act]
    split
    · rfl
    · exact h
  | hangUp => exact h
  | setHandler b => exact h

/-- The receiving task does not begin again. -/
theorem step_of_stopped {r : Run} (h : r.receiving = false) (s : Step) :
    (r.step s).receiving = false :=
  settle_of_stopped (act_of_stopped h s)

/-- What nothing holds any more is not held again. -/
theorem step_of_let_go {r : Run} (h : r.held = false) (s : Step) : (r.step s).held = false :=
  settle_of_let_go (act_of_let_go h s)

/-- A session that was let go stays so. -/
theorem steps_of_let_go {r : Run} (h : r.held = false) (script : List Step) :
    (r.steps script).held = false := by
  induction script generalizing r with
  | nil => exact h
  | cons s script ih => exact ih (step_of_let_go h s)

end Run
end KeepAlive
end EtcdClient
