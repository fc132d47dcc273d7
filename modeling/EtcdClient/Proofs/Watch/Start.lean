import EtcdClient.Proofs.Session.Start
import EtcdClient.Proofs.Watch.Delivery

/-
# The start of a watch session

The start of a watch session is decided by the first response flagged created, by a failure or the
end of the stream, by the timeout, or before all that by a stream that could not be opened.
`verdict` is the outcome for each cause. Responses that are not flagged created are handed to the
handler and leave the start alone, also its clock.

A start that is not decided is `Pending`: the session is open and held, its task receives, and no
outcome was noted. `start_of_first_answer` says so of every script in which the server does not take
its confirmation back in the same response.

Source: `SPEC_FULL.md` §4.2, the construction, and §10.4 on the handshake cell.
-/

namespace EtcdClient

namespace Arrival

/-- A response flagged created. -/
def isCreated : Arrival WatchResponse → Bool
  | .response w => w.created
  | _ => false

/-- What decides the start of a watch when it arrives: a response flagged created, a failure, the
end. -/
def answers : Arrival WatchResponse → Bool
  | .response w => w.created
  | _ => true

/-- The same without a response that says at once that the watch was canceled. -/
def confirms : Arrival WatchResponse → Bool
  | .response w => w.created && !w.canceled
  | _ => true

/-- A response flagged created answers, canceled or not. -/
theorem answers_of_isCreated (a : Arrival WatchResponse) (h : a.isCreated = true) :
    a.answers = true := by
  cases a with
  | response w => exact h
  | failure s => rfl
  | finish => rfl

/-- A confirmation is an answer, and not the other way around. -/
theorem answers_of_confirms (a : Arrival WatchResponse) (h : a.confirms = true) :
    a.answers = true := by
  cases a with
  | response w => exact (Bool.and_eq_true_iff.1 h).1
  | failure s => rfl
  | finish => rfl

/-- What ends the stream answers a start that still waits. -/
theorem answers_of_isLast (a : Arrival WatchResponse) (h : a.isLast = true) :
    a.answers = true := by
  cases a with
  | response w => exact absurd h Bool.false_ne_true
  | failure s => rfl
  | finish => rfl

end Arrival

namespace Watch

/-- What a start gets to see in a step. -/
def Step.sight : Step → Sight WatchResponse
  | .arrive items => { items }
  | .advance d => { elapsed := d }
  | _ => {}

/-- A start gets to see all that arrives. -/
theorem Step.sight_items (s : Step) : s.sight.items = s.items := by
  cases s <;> rfl

/-- So along a script it sees the arrivals in order. -/
theorem items_of_sights (script : List Step) :
    (script.map Step.sight).flatMap Sight.items = arrivals script := by
  rw [List.flatMap_map]
  exact congrArg script.flatMap (funext Step.sight_items)

/-- The end of a start, by what decided it. -/
def verdict : Cause WatchResponse → Start
  | .refused s => .failed (.grpc s)
  | .arrival (.response w) => .ready w.watchId
  | .arrival (.failure s) => .failed (.grpc s)
  | .arrival .finish => .failed (.streamClosed "watch stream ended before the watch was created")
  | .timeout t => .failed (.handshakeTimeout "watch creation" t)

/-- Each cause decides: none of them leaves the start waiting. -/
theorem verdict_ne_waiting (c : Cause WatchResponse) : verdict c ≠ .waiting := by
  cases c with
  | arrival a => cases a <;> simp [verdict]
  | _ => simp [verdict]

namespace Run

/-- A start that was decided is not decided again. -/
theorem step_start_of_decided (r : Run) (s : Step) (h : r.start ≠ .waiting) :
    (r.step s).start = r.start := by
  have hact := act_start r s
  rw [← hact]
  show (r.act s).decideStart.start = (r.act s).start
  unfold decideStart
  split
  · next hwaiting => exact absurd (hact.symm.trans hwaiting) h
  · rfl

/-! ### The outcome that is noted -/

/-- The outcome that is noted when something arrives. -/
def outcomeOf : Arrival WatchResponse → Result Int64
  | .response w => .ok w.watchId
  | .failure s => .error (.grpc s)
  | .finish => .error streamEnded

/-- What a handler does is no outcome. -/
@[simp] theorem tell_outcome (r : Run) (listener : Listener) (c : Callback WatchResponse) :
    (r.tell listener c).outcome = r.outcome := by
  obtain ⟨log, h | h⟩ := r.tell_cases listener c
  · rw [h]
  · rw [h]
    unfold close
    split <;> rfl

/-- A receiving task notes what answers the creation unless it has noted something before. -/
theorem receive_outcome (r : Run) (a : Arrival WatchResponse) :
    (r.receive a).outcome =
      (r.outcome <|> if r.receiving && a.answers then some (outcomeOf a) else none) := by
  cases hr : r.receiving with
  | false =>
    rw [receive_of_stopped hr]
    simp
  | true =>
    unfold receive
    rw [if_pos hr]
    cases a with
    | response w => cases hw : w.created <;> simp [hw, Arrival.answers, decide, outcomeOf]
    | failure s => exact tell_outcome _ _ _
    | finish => exact tell_outcome _ _ _

/-- The first outcome stays, whatever else arrives in the same step. -/
theorem receiveAll_outcome_of_some {r : Run} {o : Result Int64} (h : r.outcome = some o)
    (items : List (Arrival WatchResponse)) : (items.foldl receive r).outcome = some o := by
  induction items generalizing r with
  | nil => exact h
  | cons a items ih => exact ih (by rw [receive_outcome, h]; rfl)

/-- Of several arrivals it notes the first that answers the creation. -/
theorem receiveAll_outcome {r : Run} (hreceiving : r.receiving = true) (hnone : r.outcome = none)
    (items : List (Arrival WatchResponse)) :
    (items.foldl receive r).outcome = (items.find? Arrival.answers).map outcomeOf := by
  induction items generalizing r with
  | nil => exact hnone
  | cons a items ih =>
    have houtcome : (r.receive a).outcome = if a.answers then some (outcomeOf a) else none := by
      rw [receive_outcome, hnone, hreceiving]
      rfl
    rw [List.foldl_cons]
    cases ha : a.answers with
    | true =>
      rw [if_pos ha] at houtcome
      rw [receiveAll_outcome_of_some houtcome, List.find?_cons_of_pos ha]
      rfl
    | false =>
      rw [ha, if_neg Bool.false_ne_true] at houtcome
      -- What does not answer the creation is a response, so the task goes on.
      have hlast : a.isLast = false := by
        refine Bool.eq_false_iff.2 fun hl => ?_
        rw [Arrival.answers_of_isLast a hl] at ha
        exact absurd ha (by decide)
      rw [ih (by rw [receive_receiving, hreceiving, hlast]; rfl) houtcome,
        List.find?_cons_of_neg (by simp [ha])]

/-! ### A start that is not decided -/

/-- What holds of a run whose start is not decided. -/
structure Undecided (timeout : Option Duration) (clock : Duration) (r : Run) : Prop where
  start_eq : r.start = .waiting
  held_eq : r.held = true
  timeout_eq : r.timeout = timeout
  clock_eq : r.clock = clock
  /-- Nobody has closed the session. -/
  no_grace : r.graceEnd = none

/-- And what holds in addition once everything has happened that happens by itself. -/
structure Pending (timeout : Option Duration) (r : Run) : Prop
    extends Undecided timeout r.clock r where
  receives : r.receiving = true
  no_outcome : r.outcome = none

namespace Undecided

variable {timeout : Option Duration} {clock : Duration} {r : Run}

/-- A watch whose start is not decided is not handed out. -/
theorem not_handedOut (h : r.Undecided timeout clock) : r.handedOut = false := by
  rw [handedOut, h.start_eq]
  exact Bool.and_false _

/-- A handler cannot close a session that is not handed out. -/
theorem tell (h : r.Undecided timeout clock) (listener : Listener) (c : Callback WatchResponse) :
    (r.tell listener c).Undecided timeout clock := by
  unfold Run.tell
  dsimp only
  split
  · rw [if_neg (by simp [h.not_handedOut])]
    exact ⟨h.start_eq, h.held_eq, h.timeout_eq, h.clock_eq, h.no_grace⟩
  · exact ⟨h.start_eq, h.held_eq, h.timeout_eq, h.clock_eq, h.no_grace⟩

/-- A start stays undecided through one arrival, as the run settles only afterwards. -/
theorem receive (h : r.Undecided timeout clock) (a : Arrival WatchResponse) :
    (r.receive a).Undecided timeout clock := by
  -- A failure and the end of the stream stop the task after they were told, which is no part of
  -- this.
  have htold {t : Run} (ht : t.Undecided timeout clock) (listener : Listener)
      (c : Callback WatchResponse) :
      Undecided timeout clock { t.tell listener c with receiving := false } := by
    have h' := ht.tell listener c
    exact ⟨h'.start_eq, h'.held_eq, h'.timeout_eq, h'.clock_eq, h'.no_grace⟩
  unfold Run.receive
  split
  · cases a with
    | response w =>
      dsimp only
      refine tell ?_ _ _
      split
      · exact ⟨h.start_eq, h.held_eq, h.timeout_eq, h.clock_eq, h.no_grace⟩
      · exact h
    | failure s =>
      refine htold ?_ _ _
      exact ⟨h.start_eq, h.held_eq, h.timeout_eq, h.clock_eq, h.no_grace⟩
    | finish =>
      refine htold ?_ _ _
      exact ⟨h.start_eq, h.held_eq, h.timeout_eq, h.clock_eq, h.no_grace⟩
  · exact h

/-- And through all the items of a step, by induction over them. -/
theorem receiveAll (h : r.Undecided timeout clock) (items : List (Arrival WatchResponse)) :
    (items.foldl Run.receive r).Undecided timeout clock := by
  induction items generalizing r with
  | nil => exact h
  | cons a items ih => exact ih (h.receive a)

/-- **Nothing that is done to a run decides its start.** -/
theorem act (h : r.Undecided timeout clock) (s : Step) :
    (r.act s).Undecided timeout (s.sight.after clock) := by
  cases s with
  | arrive items => exact h.receiveAll items
  | advance d => exact ⟨h.start_eq, h.held_eq, h.timeout_eq, h.clock_eq ▸ rfl, h.no_grace⟩
  -- A watch is in nobody's hands before its start is decided, so it can neither be closed nor
  -- dropped.
  | close => rwa [Run.act, if_neg (by simp [h.not_handedOut])]
  | closeElsewhere => rwa [Run.act, if_neg (by simp [h.not_handedOut])]
  | drop => rwa [Run.act, if_neg (by simp [h.not_handedOut])]
  | hangUp => exact ⟨h.start_eq, h.held_eq, h.timeout_eq, h.clock_eq, h.no_grace⟩
  | setHandler b => exact ⟨h.start_eq, h.held_eq, h.timeout_eq, h.clock_eq, h.no_grace⟩

/-- **Settling decides a start by the first answer, else by the timeout.** -/
theorem settle (h : r.Undecided timeout clock) (items : List (Arrival WatchResponse))
    (houtcome : r.outcome = items.head?.map outcomeOf) (hquiet : items = [] → r.receiving = true) :
    Settled start (Pending timeout) verdict
      (items.map .arrival ++ overdue timeout clock) r.settle := by
  cases items with
  -- An answer has arrived, and the first of them was noted as the outcome.
  | cons a items =>
    show r.decideStart.start = verdict (.arrival a)
    have ho : r.outcome = some (outcomeOf a) := houtcome
    unfold decideStart
    cases a with
    | response w => simp only [h.start_eq, ho, outcomeOf, verdict]
    | failure s => simp only [h.start_eq, ho, outcomeOf, verdict, giveUp]
    | finish => simp only [h.start_eq, ho, outcomeOf, verdict, giveUp, streamEnded]
  | nil =>
    -- No answer has arrived, so the time decides or nothing does.
    have ho : r.outcome = none := houtcome
    have hreceiving := hquiet rfl
    have hstays (hd : r.decideStart = r) : r.settle.Pending timeout := by
      have hsettle : r.settle = { r with receiving := true } := by
        rw [Run.settle, hd, hreceiving, graceOver, h.no_grace]
        rfl
      rw [hsettle]
      exact ⟨⟨h.start_eq, h.held_eq, h.timeout_eq, rfl, h.no_grace⟩, rfl, ho⟩
    have hclock := h.clock_eq
    rw [List.map_nil, List.nil_append]
    cases timeout with
    | none =>
      refine hstays ?_
      simp only [decideStart, h.start_eq, ho, h.timeout_eq]
    | some t =>
      simp only [overdue]
      split
      · next hdue =>
        show r.decideStart.start = verdict (.timeout t)
        simp only [decideStart, h.start_eq, ho, h.timeout_eq, hclock, if_pos hdue, giveUp, verdict]
      · next hdue =>
        refine hstays ?_
        simp only [decideStart, h.start_eq, ho, h.timeout_eq, hclock, if_neg hdue]

end Undecided

/-! ### Every step, and every script -/

namespace Pending

variable {timeout : Option Duration} {r : Run}

/-- The first arrival of a step that answers the creation is noted. -/
theorem act_outcome (h : r.Pending timeout) (s : Step) :
    (r.act s).outcome = (s.sight.items.find? Arrival.answers).map outcomeOf := by
  have hnone := h.no_outcome
  have hquiet := h.not_handedOut
  cases s with
  | arrive items => exact receiveAll_outcome h.receives hnone items
  | close => rwa [act, if_neg (by simp [hquiet])]
  | closeElsewhere => rwa [act, if_neg (by simp [hquiet])]
  | drop => rwa [act, if_neg (by simp [hquiet])]
  | _ => exact hnone

/-- Without an answer the task goes on. -/
theorem act_receiving (h : r.Pending timeout) {s : Step}
    (hquiet : s.sight.items.filter Arrival.answers = []) : (r.act s).receiving = true := by
  have hlast : s.items.any Arrival.isLast = false := by
    rw [List.any_eq_false]
    intro a ha hl
    have hanswers := Arrival.answers_of_isLast a hl
    rw [Step.sight_items, List.filter_eq_nil_iff] at hquiet
    exact hquiet a ha hanswers
  have honce : r.stopsAtOnce s = false := by
    cases s <;> simp [stopsAtOnce, h.not_handedOut]
  rw [Run.act_receiving, h.receives, hlast, honce]
  rfl

/-- **One step settles a start that is pending.** -/
theorem step (h : r.Pending timeout) (s : Step) :
    Settled start (Pending timeout) verdict
      (s.sight.causes Arrival.answers timeout r.clock) (r.step s) := by
  have houtcome := h.act_outcome s
  rw [← List.head?_filter] at houtcome
  exact (h.toUndecided.act s).settle _ houtcome h.act_receiving

/-- A step that leaves the start pending has let the time pass and nothing else. -/
theorem step_clock (h : r.Pending timeout) (s : Step) :
    (r.step s).clock = s.sight.after r.clock := by
  rw [← (h.toUndecided.act s).clock_eq]
  show (r.act s).decideStart.clock = (r.act s).clock
  rcases (r.act s).decideStart_cases with hr | ⟨id, hr⟩ | ⟨e, hr⟩ <;> rw [hr]
  rfl

end Pending

/-- The opening settles a start like a step in which nothing is to be seen. -/
theorem begin_settled (create : WatchCreateRequest) (timeout : Option Duration)
    (handler : Behaviour) (openFailure : Option Status) :
    Settled start (Pending timeout) verdict
      (openFailure.toList.map .refused ++ ({} : Sight WatchResponse).causes Arrival.answers
        timeout ⟨0⟩) (begin create timeout handler openFailure) := by
  cases openFailure with
  | some s => rfl
  | none =>
    have hfresh : Undecided timeout ⟨0⟩
        { session := Session.send {} (.watchCreate create), timeout, handler } :=
      ⟨rfl, rfl, rfl, rfl, rfl⟩
    exact hfresh.settle [] rfl fun _ => rfl

/-- The clock starts at zero, also where the stream could not be opened. -/
theorem begin_clock (create : WatchCreateRequest) (timeout : Option Duration)
    (handler : Behaviour) (openFailure : Option Status) :
    (begin create timeout handler openFailure).clock = ⟨0⟩ := by
  unfold begin
  cases openFailure with
  | some s => rfl
  | none =>
    show (decideStart _).clock = ⟨0⟩
    rcases decideStart_cases
      { session := Session.send {} (.watchCreate create), timeout, handler } with
      h | ⟨id, h⟩ | ⟨e, h⟩ <;> rw [h]
    rfl

/-- So a script settles the start, by the first response flagged created whatever else it says. -/
theorem steps_settled (create : WatchCreateRequest) (timeout : Option Duration)
    (handler : Behaviour) (openFailure : Option Status) (script : List Step) :
    Settled start (Pending timeout) verdict
      (causes Arrival.answers timeout openFailure (script.map Step.sight))
      ((begin create timeout handler openFailure).steps script) := by
  have hrun := Settled.run Arrival.answers timeout Step.sight
    (fun _ s h => h.step_clock s) (fun _ s h => h.step s) step_start_of_decided
    verdict_ne_waiting (begin_settled create timeout handler openFailure) script
  rwa [begin_clock, List.append_assoc] at hrun

/-- As long as the start is not decided everything that arrives is handed to the handler, up to and
with the step that decides it. -/
theorem callbacks_of_waiting (create : WatchCreateRequest) (timeout : Option Duration)
    (handler : Behaviour) (openFailure : Option Status) (before : List Step) (s : Step)
    (after : List Step)
    (h : ((begin create timeout handler openFailure).steps before).start = .waiting) :
    (Arrival.stream (arrivals (before ++ [s]))).map Arrival.callback <+:
      ((begin create timeout handler openFailure).steps (before ++ s :: after)).callbacks := by
  have hbegun := begun_begin create timeout handler openFailure
  have hpending := ((steps_settled create timeout handler openFailure before).eq_nil_and_pending
    verdict_ne_waiting h).2
  have hgoes := ((receiving_iff hbegun before).1 hpending.receives).2
  have hall := delivered_concat_eq hbegun s hgoes (delivered_eq hbegun hgoes)
  rw [steps_callbacks, begin_callbacks, List.nil_append, ← hall, List.append_cons before s after,
    delivered_append _ (before ++ [s]), List.map_append]
  exact List.prefix_append _ _

/-- **The first answer decides the start.** Let a script be given in which the first response
flagged created is not flagged canceled. Then the start is waiting if nothing has happened that can
decide it, and otherwise the verdict of the first such thing: a stream that could not be opened, a
response flagged created and not canceled, a failure, the end, or the timeout since the opening.
Whatever arrives before and in the step that decides is handed to the handler. Nothing that happens
later changes a start that was decided. -/
theorem start_of_first_answer (create : WatchCreateRequest) (timeout : Option Duration)
    (handler : Behaviour) (openFailure : Option Status) (script : List Step)
    (hcreated : ∀ w, (Arrival.stream (arrivals script)).find? Arrival.isCreated =
      some (.response w) → w.canceled = false) :
    let start := begin create timeout handler openFailure
    let r := start.steps script
    let cause :=
      (causes Arrival.confirms timeout openFailure (script.map Step.sight)).head?
    r.start = cause.elim .waiting verdict ∧
      (r.start = .waiting ↔ cause = none) ∧
      (∀ before s after, script = before ++ s :: after → (start.steps before).start = .waiting →
        (Arrival.stream (arrivals (before ++ [s]))).map Arrival.callback <+: r.callbacks) ∧
      (r.start ≠ .waiting → ∀ later, (r.steps later).start = r.start) := by
  intro start r cause
  have hsettled := steps_settled create timeout handler openFailure script
  have hwaiting (t : Run) (h : t.Pending timeout) : t.start = .waiting := h.start_eq
  -- A response that decides is the first one flagged created, so it is not flagged canceled.
  have hcause : cause =
      (causes Arrival.answers timeout openFailure (script.map Step.sight)).head? := by
    refine head?_causes_of_meets Arrival.answers_of_confirms fun c hc => ?_
    cases c with
    | arrival a =>
      cases a with
      | response w =>
        have hfirst := find?_of_head?_causes hc
        have hw : w.created = true := List.find?_some (p := Arrival.answers) hfirst
        rw [items_of_sights, ← Arrival.find?_stream Arrival.answers_of_isLast] at hfirst
        have hnot := hcreated w (find?_of_imp Arrival.answers_of_isCreated hfirst hw)
        simp [Cause.meets, Arrival.confirms, hw, hnot]
      | failure s => rfl
      | finish => rfl
    | refused s => rfl
    | timeout t => rfl
  rw [hcause]
  refine ⟨hsettled.start_eq hwaiting, hsettled.waiting_iff hwaiting verdict_ne_waiting,
    fun before s after heq h => ?_, fun hdecided later => ?_⟩
  · show _ <+: (start.steps script).callbacks
    rw [heq]
    exact callbacks_of_waiting create timeout handler openFailure before s after h
  · exact start_foldl_of_decided step_start_of_decided hdecided later

/-- Events come before the confirmation and four of five seconds go by, then the number of the
confirmation counts. What is said of another watch after that does not. -/
theorem start_of_first_answer_after_early_events :
    let create := ({} : WatchOptions).request [97]
    let script : List Step := [.arrive [.response { watchId := 0 }], .advance (.ofSeconds 4),
      .arrive [.response { watchId := 42, created := true },
        .response { watchId := 43, created := true, canceled := true }], .advance (.ofSeconds 4)]
    (∀ w, (Arrival.stream (arrivals script)).find? Arrival.isCreated = some (.response w) →
      w.canceled = false) ∧
      ((begin create (some (.ofSeconds 5)) .record none).steps script).start = .ready 42 := by
  intro create script
  have hcreated (w : WatchResponse)
      (h : (Arrival.stream (arrivals script)).find? Arrival.isCreated = some (.response w)) :
      w.canceled = false := by
    have hw : Arrival.response { watchId := 42, created := true } = .response w :=
      Option.some.inj h
    rw [← Arrival.response.inj hw]
  exact ⟨hcreated,
    (start_of_first_answer create (some (.ofSeconds 5)) .record none script hcreated).1⟩

end Run
end Watch
end EtcdClient
