import EtcdClient.Proofs.Watch.Isolation
import EtcdClient.Proofs.Watch.Requests

/-
# The time of grace of a closed watch

What is delivered after a watch was closed is decided by the first close alone, or by a drop:

| the watch is | the handler is told |
| --- | --- |
| closed from where tasks run, or by the handler | what arrives before `closeGrace` is over |
| closed from elsewhere | nothing more |
| dropped, closed before or not | nothing more |

`inTime` reads off the script what arrives before a deadline. From its first close on a run is
`InGrace`, and each step keeps that, the deadline included; so what is delivered is what the stream
carries of what arrives in time (`InGrace.delivered_eq`). Before it nothing has stopped the
receiving task, because what stops a task closes the session (`closed_of_stopped`). To close a
closed session changes nothing (`step_apart_of_closed`), so that later closes may be left out.

Source: `SPEC_FULL.md` §10.4 on the close of a watch, `CLOSE_GRACE`.
-/

namespace EtcdClient
namespace Watch

/-- What arrives along a script before a deadline, from a clock on. -/
def inTime (deadline clock : Duration) (script : List Step) : List (Arrival WatchResponse) :=
  observe (fun clock s => s.sight.after clock)
    (fun clock s => if deadline ≤ clock then [] else s.items) clock script

/-- A script up to where the session is dropped. -/
def upToDrop (script : List Step) : List Step :=
  script.takeWhile fun
    | .drop => false
    | _ => true

/-- A step that is not a drop stays in the part of the script before the drop. -/
theorem upToDrop_cons {s : Step} (h : s ≠ .drop) (script : List Step) :
    upToDrop (s :: script) = s :: upToDrop script := by
  cases s with
  | drop => exact absurd rfl h
  | _ => rfl

/-- Before the deadline a step adds what it brings, and the rest is read from the clock it
leaves. -/
theorem inTime_cons {deadline clock : Duration} (h : ¬ deadline ≤ clock) (s : Step)
    (script : List Step) :
    inTime deadline clock (s :: script) =
      s.items ++ inTime deadline (s.sight.after clock) script := by
  show (if deadline ≤ clock then [] else s.items) ++ _ = _
  rw [if_neg h]
  rfl

/-- At the deadline and after it nothing is in time. -/
theorem inTime_of_late {deadline clock : Duration} (h : deadline ≤ clock) (script : List Step) :
    inTime deadline clock script = [] := by
  refine (observe_of_stopped (fun clock => deadline ≤ clock) (fun clock s hlate => if_pos hlate)
    (fun clock s hlate => ?_) h script).1
  exact Nat.le_trans hlate (Nat.le_add_right _ _)

namespace Run

/-! ### Steps of a session that was handed out -/

/-- A decided start is not decided again. -/
theorem decideStart_of_ready {r : Run} (h : r.start.isReady = true) : r.decideStart = r := by
  unfold decideStart
  split
  · next hwaiting =>
    rw [hwaiting] at h
    exact absurd h Bool.false_ne_true
  · rfl

/-- A start that handed its session out stays so at every step. -/
theorem step_ready {r : Run} (h : r.start.isReady = true) (s : Step) :
    (r.step s).start.isReady = true := by
  rwa [step_start_of_decided r s fun hwaiting => by simp [hwaiting, Start.isReady] at h]

/-- Once the session is out a step is its act, and then the grace: nothing is left of the deadlines
of the start. -/
theorem step_of_ready {r : Run} (h : r.start.isReady = true) (s : Step) :
    r.step s = { r.act s with receiving := (r.act s).receiving && !(r.act s).graceOver } := by
  have hdecided : (r.act s).decideStart = r.act s := decideStart_of_ready (by rwa [act_start])
  rw [step, settle, hdecided]

/-- A step that closes leaves a closed session, whichever of `close`, the handler or a drop it
was. -/
theorem step_closed_of_closes {r : Run} {s : Step} (h : r.closes s = true) :
    (r.step s).session.closed = true := by
  have hready := (Bool.and_eq_true_iff.1 (handedOut_of_closes h)).2
  rw [step_of_ready hready]
  show (r.act s).session.closed = true
  rw [act_session_of_closes h, Session.halfClose_closed]

/-! ### The end of the grace -/

/-- Telling leaves the clock alone, and who holds the session. -/
theorem tell_frame (r : Run) (listener : Listener) (c : Callback WatchResponse) :
    (r.tell listener c).clock = r.clock ∧ (r.tell listener c).held = r.held := by
  obtain ⟨log, h | h⟩ := r.tell_cases listener c
  · rw [h]
    exact ⟨rfl, rfl⟩
  · rw [h]
    unfold close
    split <;> exact ⟨rfl, rfl⟩

/-- What a handler is told moves the end of the grace only where the handler closes an open session:
then the grace starts at the clock of the telling. -/
theorem tell_graceEnd (r : Run) (listener : Listener) (c : Callback WatchResponse) :
    (r.tell listener c).graceEnd =
      if r.closesWhenTold && !r.session.closed then some (r.clock + closeGrace)
      else r.graceEnd := by
  unfold tell closesWhenTold
  cases hb : r.handler with
  | close =>
    cases hout : r.handedOut <;> cases hc : r.session.closed <;>
      simp [close, hc, Behaviour.closes]
  | _ => simp [Behaviour.closes]

/-- What arrives does not move the clock, and nobody lets go of the session over it. -/
theorem receive_frame (r : Run) (a : Arrival WatchResponse) :
    (r.receive a).clock = r.clock ∧ (r.receive a).held = r.held := by
  unfold receive
  split
  · cases a with
    | response w =>
      dsimp only
      split <;> exact tell_frame _ _ _
    | failure s => exact tell_frame _ _ _
    | finish => exact tell_frame _ _ _
  · exact ⟨rfl, rfl⟩

/-- As for one telling: the grace is started by the first arrival that makes the handler close. -/
theorem receive_graceEnd (r : Run) (a : Arrival WatchResponse) :
    (r.receive a).graceEnd =
      if r.receiving && r.closesWhenTold && !r.session.closed then some (r.clock + closeGrace)
      else r.graceEnd := by
  cases hr : r.receiving with
  | false => rw [receive_of_stopped hr, Bool.false_and, Bool.false_and, if_neg Bool.false_ne_true]
  | true =>
    unfold receive
    rw [if_pos hr, Bool.true_and]
    cases a with
    | response w =>
      dsimp only
      split <;> exact tell_graceEnd _ _ _
    | failure s => exact tell_graceEnd _ _ _
    | finish => exact tell_graceEnd _ _ _

/-- The clock and who holds the session are left alone by everything one step brings. -/
theorem receiveAll_frame (r : Run) (items : List (Arrival WatchResponse)) :
    (items.foldl receive r).clock = r.clock ∧ (items.foldl receive r).held = r.held := by
  induction items generalizing r with
  | nil => exact ⟨rfl, rfl⟩
  | cons a items ih =>
    obtain ⟨hclock, hheld⟩ := r.receive_frame a
    rw [List.foldl_cons, (ih _).1, (ih _).2]
    exact ⟨hclock, hheld⟩

/-- Of everything one step brings the first item alone can start the grace: the next ones find the
session closed. -/
theorem receiveAll_graceEnd (r : Run) (items : List (Arrival WatchResponse)) :
    (items.foldl receive r).graceEnd =
      if r.receiving && r.closesWhenTold && !items.isEmpty && !r.session.closed then
        some (r.clock + closeGrace)
      else r.graceEnd := by
  induction items generalizing r with
  | nil => simp
  | cons a items ih =>
    rw [List.foldl_cons, ih, receive_closesWhenTold, receive_session, receive_receiving,
      (r.receive_frame a).1, receive_graceEnd]
    cases r.receiving with
    | false => simp
    | true =>
      cases r.closesWhenTold with
      | false => simp
      | true => cases r.session.closed <;> simp

/-- The first close, unless it stops the task at once, sets the end of the grace. -/
theorem act_graceEnd (r : Run) (s : Step) :
    (r.act s).graceEnd =
      if r.closes s && !r.session.closed && !r.stopsAtOnce s then some (r.clock + closeGrace)
      else r.graceEnd := by
  cases s with
  | arrive items =>
    refine (r.receiveAll_graceEnd items).trans ?_
    simp [closes, stopsAtOnce]
  | close =>
    cases hout : r.handedOut <;> cases hc : r.session.closed <;>
      simp [act, closes, stopsAtOnce, hout, close, hc]
  | closeElsewhere =>
    cases hout : r.handedOut <;> cases hc : r.session.closed <;>
      simp [act, closes, stopsAtOnce, hout, closeElsewhere, hc]
  | drop =>
    cases hout : r.handedOut <;> simp [act, closes, stopsAtOnce, hout, abort]
  | _ => rfl

/-- The clock moves as the script says, whatever the run did before. -/
theorem act_clock (r : Run) (s : Step) : (r.act s).clock = s.sight.after r.clock := by
  cases s with
  | arrive items => exact (r.receiveAll_frame items).1
  | advance d => rfl
  | close =>
    simp only [act, close]
    split
    · split <;> rfl
    · rfl
  | closeElsewhere =>
    simp only [act, closeElsewhere]
    split
    · split <;> rfl
    · rfl
  | drop =>
    simp only [act]
    split <;> rfl
  | _ => rfl

/-- A task that goes on has a session in hand if it had one before. -/
theorem act_held (r : Run) (s : Step) (h : (r.act s).receiving = true) :
    (r.act s).held = r.held := by
  cases s with
  | arrive items => exact (r.receiveAll_frame items).2
  | close =>
    simp only [act, close]
    split
    · split <;> rfl
    · rfl
  | closeElsewhere =>
    simp only [act, closeElsewhere]
    split
    · split <;> rfl
    · rfl
  | drop =>
    simp only [act] at h ⊢
    split at h
    · exact absurd h Bool.false_ne_true
    · next hout => rw [if_neg hout]
  | _ => rfl

/-! ### What has stopped a task has closed the session -/

/-- The grace of an open session has not begun. -/
def Graced (r : Run) : Prop := r.session.closed = false → r.graceEnd = none

/-- A step that leaves the session open has closed nothing, and only a close starts the grace. -/
theorem step_graced {r : Run} (h : r.Graced) (s : Step) : (r.step s).Graced := by
  intro hopen
  have hropen : r.session.closed = false :=
    Bool.eq_false_iff.2 fun hclosed => by simp [(step_of_closed hclosed s).1] at hopen
  have hcloses : r.closes s = false :=
    Bool.eq_false_iff.2 fun hcloses => by simp [step_closed_of_closes hcloses] at hopen
  have hact : (r.act s).graceEnd = none := by
    rw [act_graceEnd, hcloses]
    exact h hropen
  show (r.act s).decideStart.graceEnd = none
  rcases (r.act s).decideStart_cases with hr | ⟨id, hr⟩ | ⟨e, hr⟩ <;> rw [hr] <;> exact hact

/-- No run begins in its grace. -/
theorem begin_graced (create : WatchCreateRequest) (timeout : Option Duration)
    (handler : Behaviour) (openFailure : Option Status) :
    (begin create timeout handler openFailure).Graced := by
  intro _
  unfold begin
  cases openFailure with
  | some s => rfl
  | none =>
    show (decideStart _).graceEnd = none
    rcases decideStart_cases
      { session := Session.send {} (.watchCreate create), timeout, handler } with
      h | ⟨id, h⟩ | ⟨e, h⟩ <;> rw [h]
    rfl

/-- By induction over the script: no run is in its grace while its session is open. -/
theorem steps_graced {r : Run} (h : r.Graced) (script : List Step) : (r.steps script).Graced := by
  induction script generalizing r with
  | nil => exact h
  | cons s script ih => exact ih (step_graced h s)

/-- A failed start leaves a closed session, for every script. -/
theorem closed_of_failed (create : WatchCreateRequest) (timeout : Option Duration)
    (handler : Behaviour) (openFailure : Option Status) (script : List Step) {e : ClientError}
    (h : ((begin create timeout handler openFailure).steps script).start = .failed e) :
    ((begin create timeout handler openFailure).steps script).session.closed = true :=
  ((account_begin create timeout handler openFailure).steps script).closed_iff.2
    (.inl ⟨e, h⟩)

/-- A task that was stopped is that of a closed session. -/
theorem closed_of_stopped (create : WatchCreateRequest) (timeout : Option Duration)
    (handler : Behaviour) (openFailure : Option Status) {script : List Step}
    (h : (begin create timeout handler openFailure).Stopped script) :
    ((begin create timeout handler openFailure).steps script).session.closed = true := by
  rcases h with ⟨e, he⟩ | ⟨before, s, after, rfl, hstops⟩
  · exact (steps_of_closed (closed_of_failed create timeout handler openFailure [] he) script).1
  -- Whatever stopped the task on the way closed the session in that step, and it stays closed.
  · have hsplit : (begin create timeout handler openFailure).steps (before ++ s :: after) =
        (((begin create timeout handler openFailure).steps before).step s).steps after := by
      simp [steps, List.foldl_append]
    rw [hsplit]
    refine (steps_of_closed ?_ after).1
    rcases hstops with ⟨e, he⟩ | hout | ⟨hout, -⟩ | hover
    · rw [← steps_concat] at he ⊢
      exact closed_of_failed create timeout handler openFailure _ he
    · exact step_closed_of_closes hout
    · exact step_closed_of_closes hout
    -- An open session has no end of its grace that could be over.
    · rw [← steps_concat] at hover ⊢
      refine Classical.byContradiction fun hne => ?_
      have hnone := steps_graced (begin_graced create timeout handler openFailure) (before ++ [s])
        (Bool.eq_false_iff.2 hne)
      rw [graceOver, hnone] at hover
      exact absurd hover Bool.false_ne_true

/-! ### The run of a closed session -/

/-- A session that was closed with a time of grace. -/
structure InGrace (deadline : Duration) (r : Run) : Prop where
  closed : r.session.closed = true
  ready : r.start.isReady = true
  graceEnd_eq : r.graceEnd = some deadline
  held_of_receiving : r.receiving = true → r.held = true
  early_of_receiving : r.receiving = true → ¬ deadline ≤ r.clock

namespace InGrace

variable {deadline : Duration} {r : Run}

/-- While the grace runs a step moves the clock as the script says. -/
theorem step_clock (h : r.InGrace deadline) (s : Step) :
    (r.step s).clock = s.sight.after r.clock := by
  rw [step_of_ready h.ready]
  exact r.act_clock s

/-- The end of the grace is set once: no later close moves it. -/
theorem act_graceEnd_eq (h : r.InGrace deadline) (s : Step) :
    (r.act s).graceEnd = some deadline := by
  rw [act_graceEnd, h.closed, Bool.not_true, Bool.and_false, Bool.false_and,
    if_neg Bool.false_ne_true, h.graceEnd_eq]

/-- The task goes on until its stream is over, the session is dropped or the grace is over. -/
theorem step_receiving_iff (h : r.InGrace deadline) (s : Step) :
    (r.step s).receiving = true ↔
      r.receiving = true ∧ s.items.any Arrival.isLast = false ∧ s ≠ .drop ∧
        ¬ deadline ≤ s.sight.after r.clock := by
  have hover : (r.act s).graceOver = Decidable.decide (deadline ≤ s.sight.after r.clock) := by
    rw [graceOver, h.act_graceEnd_eq, act_clock]
  -- A close from elsewhere stops nothing, since the session is closed already.
  have honce (hr : r.receiving = true) : r.stopsAtOnce s = true ↔ s = .drop := by
    cases s with
    | closeElsewhere => simp [stopsAtOnce, h.closed]
    | drop => simp [stopsAtOnce, handedOut, h.held_of_receiving hr, h.ready]
    | _ => simp [stopsAtOnce]
  rw [step_of_ready h.ready]
  show ((r.act s).receiving && !(r.act s).graceOver) = true ↔ _
  rw [act_receiving, hover]
  simp only [Bool.and_eq_true, Bool.not_eq_true', decide_eq_false_iff_not]
  constructor
  · rintro ⟨⟨⟨hr, hlast⟩, hgoes⟩, hearly⟩
    exact ⟨hr, hlast, fun hdrop => by simp [(honce hr).2 hdrop] at hgoes, hearly⟩
  · rintro ⟨hr, hlast, hdrop, hearly⟩
    exact ⟨⟨⟨hr, hlast⟩, Bool.eq_false_iff.2 fun hstops => hdrop ((honce hr).1 hstops)⟩, hearly⟩

/-- **The grace is set once.** -/
theorem step (h : r.InGrace deadline) (s : Step) : (r.step s).InGrace deadline where
  closed := (step_of_closed h.closed s).1
  ready := step_ready h.ready s
  graceEnd_eq := by
    rw [step_of_ready h.ready]
    exact h.act_graceEnd_eq s
  held_of_receiving hreceiving := by
    have hr := ((h.step_receiving_iff s).1 hreceiving).1
    rw [step_of_ready h.ready] at hreceiving ⊢
    have hact := (Bool.and_eq_true_iff.1 hreceiving).1
    exact (r.act_held s hact).trans (h.held_of_receiving hr)
  early_of_receiving hreceiving := by
    rw [h.step_clock]
    exact ((h.step_receiving_iff s).1 hreceiving).2.2.2

/-- **What arrives in time is delivered, and nothing else.** -/
theorem delivered_eq (h : r.InGrace deadline) (script : List Step) :
    r.delivered script =
      if r.receiving then Arrival.stream (inTime deadline r.clock (upToDrop script)) else [] := by
  -- Along the script, step by step: the task either goes on with the grace not over, or it has
  -- stopped and nothing more is handed to it.
  induction script generalizing r with
  | nil => exact (ite_self []).symm
  | cons s script ih =>
    have hcons : r.delivered (s :: script) = r.handed s ++ (r.step s).delivered script := rfl
    have hgoes := h.step_receiving_iff s
    rw [hcons, ih (h.step s), handed, h.step_clock]
    cases hr : r.receiving with
    | false =>
      rw [step_of_stopped hr s]
      rfl
    | true =>
      rw [if_pos rfl, if_pos rfl]
      by_cases hdrop : s = .drop
      · have hstops : (r.step s).receiving = false :=
          Bool.eq_false_iff.2 fun hgo => (hgoes.1 hgo).2.2.1 hdrop
        rw [hstops, hdrop]
        rfl
      -- Every item of the step is in time, as the grace is not over when they arrive.
      · rw [upToDrop_cons hdrop, inTime_cons (h.early_of_receiving hr)]
        cases hlast : s.items.any Arrival.isLast with
        | true =>
          have hstops : (r.step s).receiving = false := by
            refine Bool.eq_false_iff.2 fun hgo => ?_
            exact absurd ((hgoes.1 hgo).2.1.symm.trans hlast) (by decide)
          rw [hstops, Arrival.stream_append_of_last hlast]
          exact List.append_nil _
        | false =>
          rw [Arrival.stream_append_of_no_last hlast, Arrival.stream_of_no_last hlast]
          by_cases hlate : deadline ≤ s.sight.after r.clock
          · rw [inTime_of_late hlate, Arrival.stream, ite_self]
          · rw [hgoes.2 ⟨hr, hlast, hdrop, hlate⟩, if_pos rfl]

end InGrace

/-! ### The first close -/

/-- A close that leaves the task running. -/
structure FirstClose (r : Run) (s : Step) : Prop where
  inHand : r.handedOut = true
  opened : r.session.closed = false
  closed : (r.step s).session.closed = true
  /-- It is a close from where tasks run. -/
  running : s ≠ .closeElsewhere ∧ s ≠ .drop

namespace FirstClose

variable {r : Run} {s : Step}

/-- The first close is of a session that was handed out. -/
theorem ready (h : r.FirstClose s) : r.start.isReady = true :=
  (Bool.and_eq_true_iff.1 h.inHand).2

/-- The first close finds the session in somebody's hands. -/
theorem held (h : r.FirstClose s) : r.held = true := (Bool.and_eq_true_iff.1 h.inHand).1

/-- The first close does close. -/
theorem closes (h : r.FirstClose s) : r.closes s = true := by
  cases hcloses : r.closes s with
  | true => rfl
  | false =>
    have hclosed : (r.act s).session.closed = true := by
      have hstep := h.closed
      rwa [step_of_ready h.ready] at hstep
    rcases act_session_of_not_closes hcloses with hsession | hsession <;>
    · rw [hsession] at hclosed
      exact absurd (h.opened.symm.trans hclosed) (by decide)

/-- It is the caller who closes the session, or the handler with the first that it is told. -/
theorem caller_or_handler (h : r.FirstClose s) :
    s = .close ∨ ∃ a items, s = .arrive (a :: items) ∧ r.receiving = true ∧ r.handler = .close := by
  have hcloses := h.closes
  cases s with
  | close => exact .inl rfl
  | closeElsewhere => exact absurd rfl h.running.1
  | drop => exact absurd rfl h.running.2
  | arrive items =>
    cases items with
    | nil => simp [Run.closes] at hcloses
    | cons a items =>
      simp only [Run.closes, closesWhenTold, Bool.and_eq_true] at hcloses
      refine .inr ⟨a, items, rfl, hcloses.1.1, ?_⟩
      cases hb : r.handler with
      | close => rfl
      | _ => simp [hb, Behaviour.closes] at hcloses
  | _ => exact absurd hcloses Bool.false_ne_true

/-- A close takes no time. -/
theorem act_clock (h : r.FirstClose s) : (r.act s).clock = r.clock := by
  rw [Run.act_clock]
  rcases h.caller_or_handler with rfl | ⟨a, items, rfl, -, -⟩ <;> rfl

/-- The first close starts the grace at its own clock. -/
theorem act_graceEnd (h : r.FirstClose s) :
    (r.act s).graceEnd = some (r.clock + closeGrace) := by
  have honce : r.stopsAtOnce s = false := by
    rcases h.caller_or_handler with rfl | ⟨a, items, rfl, -, -⟩ <;> rfl
  rw [Run.act_graceEnd, h.closes, h.opened, honce]
  rfl

/-- The grace is not over at the instant it starts. -/
theorem early (r : Run) : ¬ r.clock + closeGrace ≤ r.clock := by
  show ¬ r.clock.nanoseconds + closeGrace.nanoseconds ≤ r.clock.nanoseconds
  have hpos : 0 < closeGrace.nanoseconds := by decide
  omega

/-- From its first close on a run is in grace, with the deadline `closeGrace` later. -/
theorem inGrace (h : r.FirstClose s) : (r.step s).InGrace (r.clock + closeGrace) where
  closed := h.closed
  ready := step_ready h.ready s
  graceEnd_eq := by
    rw [step_of_ready h.ready]
    exact h.act_graceEnd
  held_of_receiving hreceiving := by
    rw [step_of_ready h.ready] at hreceiving ⊢
    exact (r.act_held s (Bool.and_eq_true_iff.1 hreceiving).1).trans h.held
  early_of_receiving _ := by
    rw [step_of_ready h.ready]
    show ¬ _ ≤ (r.act s).clock
    rw [h.act_clock]
    exact early r

/-- The whole step of the first close takes no time either. -/
theorem step_clock (h : r.FirstClose s) : (r.step s).clock = r.clock := by
  rw [step_of_ready h.ready]
  exact h.act_clock

/-- It does not stop the task. -/
theorem not_stops (h : r.FirstClose s) : ¬ r.Stops s := by
  rintro (⟨e, he⟩ | hout | ⟨hout, -⟩ | hover)
  · have hready := h.inGrace.ready
    rw [he] at hready
    exact Bool.false_ne_true hready
  · exact h.running.2 rfl
  · exact h.running.1 rfl
  · rw [graceOver, h.inGrace.graceEnd_eq, h.step_clock] at hover
    exact early r (of_decide_eq_true hover)

end FirstClose

/-- What a watch is told that is closed after `before`: all that its stream carries of what arrives
before the end of the grace, up to where it is dropped. -/
theorem delivered_of_firstClose (create : WatchCreateRequest) (timeout : Option Duration)
    (handler : Behaviour) (openFailure : Option Status) {before : List Step} {s : Step}
    (h : ((begin create timeout handler openFailure).steps before).FirstClose s)
    (after : List Step) :
    let start := begin create timeout handler openFailure
    let r := start.steps before
    ((r.step s).steps after).callbacks =
      (Arrival.stream (arrivals (before ++ [s]) ++
        inTime (r.clock + closeGrace) r.clock (upToDrop after))).map Arrival.callback := by
  intro start r
  have hbegun : start.Begun := begun_begin create timeout handler openFailure
  -- Nothing has stopped the task before the close, since that would have closed the session.
  have hgoes : ¬ start.Stopped (before ++ [s]) := by
    rw [stopped_concat]
    rintro (hstopped | hstops)
    · have hclosed := closed_of_stopped create timeout handler openFailure hstopped
      exact absurd (h.opened.symm.trans hclosed) (by decide)
    · exact h.not_stops hstops
  have hfirst := delivered_eq hbegun hgoes
  have hreceiving := receiving_iff hbegun (before ++ [s])
  have htold := (r.step s).steps_callbacks after
  have htoldFirst := start.steps_callbacks (before ++ [s])
  rw [steps_concat] at hreceiving htoldFirst
  rw [begin_callbacks, List.nil_append, hfirst] at htoldFirst
  rw [htold, htoldFirst, ← List.map_append, h.inGrace.delivered_eq, h.step_clock]
  congr 1
  -- The stream may have ended before the close or in the very step: then nothing is left to come.
  cases hlast : (arrivals (before ++ [s])).any Arrival.isLast with
  | true =>
    have hended : (r.step s).receiving = false := by
      refine Bool.eq_false_iff.2 fun hruns => ?_
      exact absurd ((hreceiving.1 hruns).1.symm.trans hlast) (by decide)
    rw [hended, Arrival.stream_append_of_last hlast, if_neg Bool.false_ne_true, List.append_nil]
  | false =>
    rw [hreceiving.2 ⟨hlast, hgoes⟩, if_pos rfl, Arrival.stream_append_of_no_last hlast,
      Arrival.stream_of_no_last hlast]

/-! ### Closing again -/

/-- What arrives at a closed session has the same effect whatever the handler does. -/
theorem receiveLapsing_apart_of_closed (l : Lapses) {r q : Run} (heq : r.apart = q.apart)
    (hclosed : r.session.closed = true) (a : Arrival WatchResponse) :
    (r.receive a).apart = (q.receiveLapsing l a).apart ∧ (r.receive a).session.closed = true := by
  let lapsed : Run := { q with handler := l.behaviour q.callbacks.length q.handler }
  have hsession : r.session = q.session := by
    show r.apart.session = q.apart.session
    rw [heq]
  constructor
  · calc (r.receive a).apart = (r.apart.receive a).apart := receive_apart (fun _ => hclosed) a
      _ = (q.apart.receive a).apart := by rw [heq]
      _ = (lapsed.receive a).apart :=
        (receive_apart (r := lapsed) (fun _ => hsession ▸ hclosed) a).symm
      _ = (q.receiveLapsing l a).apart := rfl
  · rw [receive_session]
    split
    · exact Session.halfClose_closed _
    · exact hclosed

/-- Once the session is closed it makes no difference whether the handler lapses over an item: its
lapse would close a closed session. -/
theorem receiveAllLapsing_apart_of_closed (l : Lapses) {r q : Run} (heq : r.apart = q.apart)
    (hclosed : r.session.closed = true) (items : List (Arrival WatchResponse)) :
    (items.foldl receive r).apart = (items.foldl (receiveLapsing l) q).apart := by
  let R (r q : Run) : Prop := r.apart = q.apart ∧ r.session.closed = true
  have hstart : R r q := ⟨heq, hclosed⟩
  exact (List.foldl_rel hstart fun a _ r q hrq =>
    receiveLapsing_apart_of_closed l hrq.1 hrq.2 a).1

/-- Settling reads nothing of what `apart` leaves out. -/
theorem settle_congr {r q : Run} (h : r.apart = q.apart) : r.settle.apart = q.settle.apart := by
  rw [settle_apart, settle_apart, h]

/-- The same of a whole step, and so of every script after the first close. -/
theorem stepLapsing_apart_of_closed (l : Lapses) {r q : Run} (heq : r.apart = q.apart)
    (hclosed : r.session.closed = true) (s : Step) :
    (r.step s).apart = (q.stepLapsing l s).apart := by
  have hquiet (harrive : ∀ items, s ≠ .arrive items) (hs : s.isOutward = true) :
      (r.step s).apart = (q.step s).apart := by
    refine settle_congr ?_
    rw [(r.act_apart harrive hs).1, (q.act_apart harrive hs).1, heq]
  cases s with
  | arrive items => exact settle_congr (receiveAllLapsing_apart_of_closed l heq hclosed items)
  | setHandler b => exact settle_congr heq
  | _ => exact hquiet nofun rfl

end Run

/-- A step that closes nothing and does not set the handler to do so. -/
def Step.closesNothing : Step → Bool
  | .close => false
  | .closeElsewhere => false
  | .setHandler .close => false
  | _ => true

namespace Run

/-- To close a closed session changes nothing. -/
theorem step_apart_of_closed {r : Run} (hclosed : r.session.closed = true) (hidle : r.Idle)
    {s : Step} (hs : s.closesNothing = false) : (r.step s).apart = r.apart := by
  have hact : (r.act s).apart = r.apart := by
    cases s with
    | close => rw [act, close_of_closed hclosed, ite_self]
    | closeElsewhere => rw [act, closeElsewhere, if_pos hclosed, ite_self]
    | setHandler b => rfl
    | _ => exact absurd hs.symm Bool.false_ne_true
  rw [step, settle_congr hact, hidle]

/-- **Closing again changes nothing,** whoever does it and when. -/
theorem steps_apart_of_closed (l : Lapses) {r q : Run} (heq : r.apart = q.apart)
    (hclosed : r.session.closed = true) (hidle : r.Idle) (script : List Step) :
    (r.steps script).apart = (q.stepsLapsing l (script.filter Step.closesNothing)).apart := by
  let R (r q : Run) : Prop := r.apart = q.apart ∧ r.session.closed = true ∧ r.Idle
  have hkeep (s) (_ : s ∈ script) (_ : s.closesNothing = true) (r q) (hrq : R r q) :
      R (r.step s) (q.stepLapsing l s) :=
    ⟨stepLapsing_apart_of_closed l hrq.1 hrq.2.1 s, (step_of_closed hrq.2.1 s).1, settle_idle _⟩
  have hskip (s) (_ : s ∈ script) (hs : s.closesNothing = false) (r q) (hrq : R r q) :
      R (r.step s) q :=
    ⟨(step_apart_of_closed hrq.2.1 hrq.2.2 hs).trans hrq.1, (step_of_closed hrq.2.1 s).1,
      settle_idle _⟩
  exact (foldl_rel_filter Step.closesNothing hkeep hskip ⟨heq, hclosed, hidle⟩).1

/-- A handler that closes the session with the first that it is told need not do so again. -/
theorem FirstClose.step_apart {r : Run} {s : Step} (h : r.FirstClose s) {l : Lapses}
    (hl : l r.callbacks.length = none) : (r.step s).apart = (r.stepLapsing l s).apart := by
  rcases h.caller_or_handler with rfl | ⟨a, items, rfl, hreceiving, hhandler⟩
  · rfl
  · have hset : l.behaviour r.callbacks.length r.handler = r.handler := by
      rw [Lapses.behaviour, hl]
    have hfirst : r.receiveLapsing l a = r.receive a := by
      rw [receiveLapsing, hset]
      show { r.receive a with handler := r.handler } = r.receive a
      rw [← r.receive_handler a]
    have hclosed : (r.receive a).session.closed = true := by
      rw [receive_session, hreceiving, closesWhenTold, h.inHand, hhandler]
      exact Session.halfClose_closed _
    have hrest := receiveAllLapsing_apart_of_closed l (q := r.receiveLapsing l a)
      (congrArg apart hfirst.symm) hclosed items
    exact settle_congr hrest

/-- A task that is stopped at once tells nothing more. -/
theorem callbacks_of_stopsAtOnce {r : Run} (hready : r.start.isReady = true) {s : Step}
    (h : r.stopsAtOnce s = true) (hitems : s.items = []) (after : List Step) :
    ((r.step s).steps after).callbacks = r.callbacks := by
  have hstopped : (r.step s).receiving = false := by
    -- What stops the task at once does so within its own step, which brings nothing.
    rw [step_of_ready hready]
    show ((r.act s).receiving && _) = false
    rw [act_receiving, h, Bool.not_true, Bool.and_false, Bool.false_and]
  rw [steps_callbacks_of_stopped hstopped, step, settle_callbacks, act_callbacks, hitems]
  simp [Arrival.stream]

/-- **A closed watch is told what arrives within the time of grace.** Let `s` close a watch that was
handed out, for the first time, by its caller from where tasks run or by its handler. Then all that
the stream carries of what arrives before the end of the grace is delivered, unless the watch is
dropped before, and nothing later. The run goes as if this were the only close: those that follow
may be left out, also those of the handler, which is set to record, and what the handler does later
in `s` itself is of no account. If a watch is closed first from elsewhere, or dropped, nothing more
is delivered. -/
theorem delivered_until_grace_over (create : WatchCreateRequest) (timeout : Option Duration)
    (handler : Behaviour) (openFailure : Option Status) (before : List Step) :
    let r := (begin create timeout handler openFailure).steps before
    r.handedOut = true →
      (r.session.closed = false →
        ∀ s, (r.step s).session.closed = true → s ≠ .closeElsewhere → s ≠ .drop → ∀ after,
          let t := (r.step s).steps after
          t.callbacks = (Arrival.stream (arrivals (before ++ [s]) ++
              inTime (r.clock + closeGrace) r.clock (upToDrop after))).map Arrival.callback ∧
            ∀ l : Lapses, l r.callbacks.length = none →
              let q := r.stepsLapsing l (s :: .setHandler .record ::
                after.filter Step.closesNothing)
              t.session = q.session ∧ t.callbacks = q.callbacks ∧ t.receiving = q.receiving) ∧
        (r.session.closed = false →
          ∀ after, ((r.step .closeElsewhere).steps after).callbacks = r.callbacks) ∧
        ∀ after, ((r.step .drop).steps after).callbacks = r.callbacks := by
  intro r hout
  have hready : r.start.isReady = true := (Bool.and_eq_true_iff.1 hout).2
  refine ⟨fun hopen s hclosed helsewhere hdrop after => ?_, fun hopen after => ?_, fun after => ?_⟩
  · have hfirst : r.FirstClose s := ⟨hout, hopen, hclosed, helsewhere, hdrop⟩
    refine ⟨delivered_of_firstClose create timeout handler openFailure hfirst after,
      fun l hl => ?_⟩
    -- The runs with and without the later closes differ in what the handler does alone, and a
    -- closed session takes no notice of that.
    intro q
    have hset : ((r.stepLapsing l s).step (.setHandler .record)).apart =
        (r.stepLapsing l s).settle.apart := settle_congr rfl
    have hstep : (r.step s).apart = ((r.stepLapsing l s).step (.setHandler .record)).apart := by
      rw [hset, stepLapsing_idle, hfirst.step_apart hl]
    have hapart : ((r.step s).steps after).apart = q.apart :=
      steps_apart_of_closed l hstep hclosed (settle_idle _) after
    have hfield {γ : Type} (f : Run → γ) : f ((r.step s).steps after).apart = f q.apart :=
      congrArg f hapart
    exact ⟨hfield session, hfield callbacks, hfield receiving⟩
  · exact callbacks_of_stopsAtOnce hready (by simp [stopsAtOnce, hout, hopen]) rfl after
  · exact callbacks_of_stopsAtOnce (s := .drop) hready hout rfl after

/-- A watch that is closed three times, the second time from elsewhere: it is told what it is told
if the later closes are left out. -/
theorem delivered_until_grace_over_after_three_closes :
    let event : Arrival WatchResponse := .response { watchId := 42 }
    let before : List Step := [.arrive [.response { watchId := 42, created := true }]]
    let after : List Step := [.advance (.ofSeconds 3), .closeElsewhere, .arrive [event], .close,
      .advance (.ofSeconds 2), .arrive [event, .finish]]
    let once : List Step := [.setHandler .record, .advance (.ofSeconds 3), .arrive [event],
      .advance (.ofSeconds 2), .arrive [event, .finish]]
    let r := (begin (({} : WatchOptions).request [97]) none .record none).steps before
    r.handedOut = true ∧ r.session.closed = false ∧ (r.step .close).session.closed = true ∧
      ((r.step .close).steps after).callbacks = r.callbacks ++ [event.callback] ∧
      ((r.step .close).steps after).session = ((r.step .close).steps once).session ∧
      ((r.step .closeElsewhere).steps after).callbacks = r.callbacks ∧
      ((r.step .drop).steps after).callbacks = r.callbacks := by
  intro event before after once r
  have hout : r.handedOut = true := rfl
  have hopen : r.session.closed = false := rfl
  have hclosed : (r.step .close).session.closed = true := rfl
  obtain ⟨hgrace, helsewhere, hdrop⟩ := delivered_until_grace_over
    (({} : WatchOptions).request [97]) none .record none before hout
  obtain ⟨htold, honce⟩ := hgrace hopen .close hclosed nofun nofun after
  have hkept : .setHandler .record :: after.filter Step.closesNothing = once := rfl
  have hfirst : r.steps (.close :: once) = (r.step .close).steps once := List.foldl_cons ..
  have hsession := (honce .never rfl).1
  rw [stepsLapsing_never, hkept, hfirst] at hsession
  refine ⟨hout, hopen, hclosed, ?_, hsession, helsewhere hopen after, hdrop after⟩
  rw [htold]
  dsimp only [r, event, before, after]
  rfl

end Run
end Watch
end EtcdClient
