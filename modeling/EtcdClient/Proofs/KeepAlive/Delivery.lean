import EtcdClient.Proofs.KeepAlive.Refusal
import EtcdClient.Proofs.KeepAlive.Start
import EtcdClient.Proofs.Session.Stream

/-
# Keep-alive delivery

`Run.meetings` is the record of everything that arrives along a script, each with how it finds the
session. What a handler is told is a function of this record (`tellings`):

| what arrives | finds the session | the handler is told | afterwards |
| --- | --- | --- | --- |
| a response | open, its heartbeat accepted | the response | goes on |
| a response | open, its heartbeat refused | `schedulerRejected` | nothing more |
| a failure | open | its status | nothing more |
| the end | open | nothing | nothing more |
| anything | closed | nothing | nothing more |

`Heard` is what the record says of a run, one arrival after the other (`Heard.receive`), and so of
every script. The receiving task needs no mention in it: as long as the session is open the task
runs exactly as long as everything was delivered.

Source: `SPEC_FULL.md` §4.1 and §4.3: responses are forwarded to the handler, a stream error once,
and nothing after a close.
-/

namespace EtcdClient
namespace KeepAlive

/-- What arrives in a step. -/
def Step.items (s : Step) : List (Arrival KeepAliveResponse) := s.sight.items

/-- Something that arrives, and how it finds the session. -/
structure Meeting where
  item : Arrival KeepAliveResponse
  /-- The session is open. -/
  opened : Bool
  /-- The scheduler takes heartbeats. -/
  accepting : Bool

namespace Meeting

/-- A response that finds the session open and whose heartbeat is accepted. -/
def delivered (m : Meeting) : Bool :=
  match m.item with
  | .response _ => m.opened && m.accepting
  | _ => false

/-- What a handler is told last, of the first thing that is not delivered. -/
def ending (lease : Int64) (m : Meeting) : List (Callback KeepAliveResponse) :=
  if m.opened then
    match m.item with
    | .response _ => [.error (.schedulerRejected lease)]
    | .failure s => [.error (.grpc s)]
    | .finish => []
  else []

/-- What finds the session closed ends nothing, since the handler is told nothing of it. -/
theorem ending_of_shut {lease : Int64} {m : Meeting} (h : m.opened = false) :
    m.ending lease = [] := by
  rw [ending, h, if_neg Bool.false_ne_true]

/-- Nor is it delivered, whatever it is. -/
theorem not_delivered_of_shut {m : Meeting} (h : m.opened = false) : m.delivered = false := by
  unfold delivered
  split
  · rw [h, Bool.false_and]
  · rfl

end Meeting

/-- What a handler is told of a list of arrivals: each one as long as all are delivered, then how it
ends. -/
def tellings (lease : Int64) : List Meeting → List (Callback KeepAliveResponse)
  | [] => []
  | m :: ms => if m.delivered then m.item.callback :: tellings lease ms else m.ending lease

section tellings

variable {lease : Int64} {ms : List Meeting} {m : Meeting}

/-- What is delivered is told, and the next thing has its turn. -/
theorem tellings_cons_of_delivered (h : m.delivered = true) (ms : List Meeting) :
    tellings lease (m :: ms) = m.item.callback :: tellings lease ms := by
  rw [tellings, if_pos h]

/-- The first thing that is not delivered is told of by how it ends, and the rest goes untold. -/
theorem tellings_cons_of_not_delivered (h : m.delivered = false) (ms : List Meeting) :
    tellings lease (m :: ms) = m.ending lease := by
  rw [tellings, if_neg (by simp [h])]

/-- As long as all is delivered the arrivals of two stretches are told one after the other. -/
theorem tellings_append_of_all (h : ∀ m ∈ ms, m.delivered = true) (ns : List Meeting) :
    tellings lease (ms ++ ns) = tellings lease ms ++ tellings lease ns := by
  induction ms with
  | nil => rfl
  | cons m ms ih =>
    obtain ⟨hm, hrest⟩ := List.forall_mem_cons.1 h
    rw [List.cons_append, tellings_cons_of_delivered hm, tellings_cons_of_delivered hm, ih hrest,
      List.cons_append]

/-- Nothing counts that comes after something that was not delivered. -/
theorem tellings_append_of_some (h : ∃ m ∈ ms, m.delivered = false) (ns : List Meeting) :
    tellings lease (ms ++ ns) = tellings lease ms := by
  induction ms with
  | nil =>
    obtain ⟨m, hmem, -⟩ := h
    exact absurd hmem List.not_mem_nil
  | cons m ms ih =>
    rw [List.cons_append]
    cases hm : m.delivered with
    | false => rw [tellings_cons_of_not_delivered hm, tellings_cons_of_not_delivered hm]
    | true =>
      have hrest : ∃ m ∈ ms, m.delivered = false := by
        obtain ⟨n, hmem, hn⟩ := h
        rcases List.mem_cons.1 hmem with rfl | hmem
        · exact absurd (hm.symm.trans hn) (by decide)
        · exact ⟨n, hmem, hn⟩
      rw [tellings_cons_of_delivered hm, tellings_cons_of_delivered hm, ih hrest]

/-- What finds the session closed takes part in nothing. -/
theorem tellings_append_of_shut (ms : List Meeting) (h : m.opened = false) (ns : List Meeting) :
    tellings lease (ms ++ m :: ns) = tellings lease ms := by
  by_cases hall : ∀ m ∈ ms, m.delivered = true
  · rw [tellings_append_of_all hall,
      tellings_cons_of_not_delivered (Meeting.not_delivered_of_shut h), Meeting.ending_of_shut h,
      List.append_nil]
  · exact tellings_append_of_some (by simpa using hall) _

/-- A handler is never told of the end of the stream, and an error is the last that it is told. -/
theorem tellings_shape (ms : List Meeting) :
    ∃ (responses : List KeepAliveResponse) (last : List (Callback KeepAliveResponse)),
      tellings lease ms = responses.map .response ++ last ∧
        (last = [] ∨ ∃ e, last = [.error e]) := by
  induction ms with
  | nil => exact ⟨[], [], rfl, .inl rfl⟩
  | cons m ms ih =>
    obtain ⟨responses, last, heq, hlast⟩ := ih
    cases hm : m.delivered with
    | true =>
      obtain ⟨response, hitem⟩ : ∃ response, m.item = .response response := by
        unfold Meeting.delivered at hm
        split at hm
        · next response hitem => exact ⟨response, hitem⟩
        · exact absurd hm Bool.false_ne_true
      refine ⟨response :: responses, last, ?_, hlast⟩
      rw [tellings_cons_of_delivered hm, hitem, heq]
      rfl
    | false =>
      refine ⟨[], m.ending lease, tellings_cons_of_not_delivered hm ms, ?_⟩
      unfold Meeting.ending
      split
      · split
        · exact .inr ⟨_, rfl⟩
        · exact .inr ⟨_, rfl⟩
        · exact .inl rfl
      · exact .inl rfl

end tellings

namespace Session

/-- A heartbeat that is sent leaves the session open or closed as it was. -/
@[simp] theorem beat_closed (s : Session) : s.beat.closed = s.closed := by
  unfold beat
  split <;> rfl

/-- After a close the session is closed, however often it was closed before. -/
@[simp] theorem close_closed (s : Session) : s.close.closed = true := by
  cases h : s.closed with
  | true => rw [close_of_closed h, h]
  | false => rw [close, if_neg (by simp [h])]

end Session

namespace Run

/-- How something that arrives finds the session. -/
def meeting (r : Run) (a : Arrival KeepAliveResponse) : Meeting :=
  ⟨a, !r.session.closed, r.session.scheduler.accepts⟩

/-- Everything that arrives in a step. -/
def meetingsIn (r : Run) : Step → List Meeting
  | .arrive items => observe receive (fun r a => [r.meeting a]) r items
  | _ => []

/-- Everything that arrives in the course of a script, in order. -/
def meetings (r : Run) (script : List Step) : List Meeting := observe step meetingsIn r script

/-! ### What one arrival does -/

/-- To tell a handler is to add one call to those it has had, and without a handler there is
none. -/
theorem tell_callbacks (r : Run) (listener : Listener) (c : Callback KeepAliveResponse) :
    (r.tell listener c).callbacks = r.callbacks ++ if r.handler.isSome then [c] else [] := by
  unfold tell
  cases hb : r.handler with
  | none => simp
  | some b => rfl

/-- Being told something does not change which handler is there. -/
theorem tell_handler (r : Run) (listener : Listener) (c : Callback KeepAliveResponse) :
    (r.tell listener c).handler = r.handler := by
  unfold tell
  split <;> rfl

/-- Nor does it stop the receiving task at once: a handler that closes is found out at the next
turn. -/
@[simp] theorem tell_receiving (r : Run) (listener : Listener) (c : Callback KeepAliveResponse) :
    (r.tell listener c).receiving = r.receiving := by
  unfold tell
  split <;> rfl

/-- A closed session takes no notice of what arrives. -/
theorem receive_of_closed {r : Run} (h : r.session.closed = true)
    (a : Arrival KeepAliveResponse) : r.receive a = r := by
  simp [receive, h]

/-- What an open session makes of a response, by the answer of the scheduler. -/
theorem handle_cases {r : Run} (hopen : r.session.closed = false) (response : KeepAliveResponse) :
    (r.session.scheduler.accepts = true ∧
        r.handle response = { r.decide (.ok response.ttl) with
          session := (r.session.rearm response.ttl).2 }.tell .keepAliveResponse
            (.response response)) ∨
      (r.session.scheduler.accepts = false ∧
        r.handle response =
          (r.decide (.ok response.ttl)).fail (.schedulerRejected r.session.lease)) := by
  unfold handle
  dsimp only [decide_session]
  cases ha : r.session.scheduler.accepts with
  | true => exact .inl ⟨rfl, by rw [Session.rearm_of_accepts ha]⟩
  | false =>
    have hrefused : r.session.rearm response.ttl =
        (.error (.schedulerRejected r.session.lease), r.session) := by
      simp [Session.rearm, ha, hopen]
    exact .inr ⟨rfl, by rw [hrefused]; rfl⟩

/-- A receiving task tells the handler of an arrival what `tellings` says of it alone. -/
theorem receive_callbacks {r : Run} (h : r.receiving = true) (a : Arrival KeepAliveResponse) :
    (r.receive a).callbacks = r.callbacks ++
      if r.handler.isSome then tellings r.session.lease [r.meeting a] else [] := by
  cases hc : r.session.closed with
  -- The loop finds the session closed and leaves what arrived unhandled.
  | true =>
    rw [receive_of_closed hc, ← List.nil_append [r.meeting a],
      tellings_append_of_shut [] (by simp [meeting, hc])]
    simp [tellings]
  | false =>
    have htakes : (r.receiving && !r.session.closed) = true := by rw [h, hc]; rfl
    unfold receive
    rw [if_pos htakes]
    -- Told is the response, or the refusal of its heartbeat, or the failure; the end is told to
    -- nobody.
    cases a with
    | response response =>
      rcases r.handle_cases hc response with ⟨ha, hr⟩ | ⟨ha, hr⟩
      · show (r.handle response).callbacks = _
        rw [hr, tell_callbacks]
        simp [tellings, Meeting.delivered, meeting, hc, ha, decide, Arrival.callback]
      · show (r.handle response).callbacks = _
        rw [hr]
        refine (tell_callbacks _ _ _).trans ?_
        simp [tellings, Meeting.delivered, Meeting.ending, meeting, hc, ha, decide]
    | failure s =>
      refine (tell_callbacks _ _ _).trans ?_
      simp [tellings, Meeting.delivered, Meeting.ending, meeting, hc, decide]
    | finish => simp [tellings, Meeting.delivered, Meeting.ending, meeting, hc, decide]

/-- It goes on after what was delivered, and finds out later that the session is closed. -/
theorem receive_receiving (r : Run) (a : Arrival KeepAliveResponse) :
    (r.receive a).receiving =
      (r.receiving && (r.session.closed || (r.meeting a).delivered)) := by
  cases hr : r.receiving with
  | false => rw [receive_of_stopped hr, hr, Bool.false_and]
  | true =>
    cases hc : r.session.closed with
    | true => rw [receive_of_closed hc, hr]; rfl
    | false =>
      have htakes : (r.receiving && !r.session.closed) = true := by rw [hr, hc]; rfl
      unfold receive
      rw [if_pos htakes]
      cases a with
      | response response =>
        show (r.handle response).receiving = _
        rcases r.handle_cases hc response with ⟨ha, heq⟩ | ⟨ha, heq⟩
        · rw [heq, tell_receiving]
          simp [Meeting.delivered, meeting, hc, ha, hr, decide]
        · rw [heq]
          simp [Meeting.delivered, meeting, ha, fail]
      | failure s => rfl
      | finish => rfl

/-- No arrival sets or removes the handler. -/
theorem receive_handler (r : Run) (a : Arrival KeepAliveResponse) :
    (r.receive a).handler = r.handler := by
  unfold receive
  split
  · cases a with
    | response response =>
      simp only [handle]
      split <;> exact tell_handler _ _ _
    | failure s => exact tell_handler _ _ _
    | finish => rfl
  · rfl

/-- Settling calls nobody. -/
@[simp] theorem settle_callbacks (r : Run) : r.settle.callbacks = r.callbacks := by
  show r.decideStart.callbacks = r.callbacks
  rcases r.decideStart_cases with h | h | ⟨e, h⟩ <;> rw [h]
  rfl

/-- Settling leaves the handler in its place. -/
@[simp] theorem settle_handler (r : Run) : r.settle.handler = r.handler := by
  show r.decideStart.handler = r.handler
  rcases r.decideStart_cases with h | h | ⟨e, h⟩ <;> rw [h]
  rfl

/-! ### What the record says of a run -/

/-- What the record of arrivals says of a run, with a handler or without. -/
structure Heard (lease : Int64) (handled : Bool) (ms : List Meeting) (r : Run) : Prop where
  callbacks_eq : r.callbacks = if handled then tellings lease ms else []
  handler_isSome : r.handler.isSome = handled
  lease_eq : r.session.lease = lease
  receiving_iff : r.session.closed = false →
    (r.receiving = true ↔ ∀ m ∈ ms, m.delivered = true)

namespace Heard

variable {lease : Int64} {handled : Bool} {ms : List Meeting} {r : Run}

/-- The account reads the calls, whether there is a handler, and the task of an open session. -/
theorem congr (h : r.Heard lease handled ms) {t : Run} (hcallbacks : t.callbacks = r.callbacks)
    (hhandler : t.handler.isSome = r.handler.isSome) (hlease : t.session.lease = r.session.lease)
    (hopen : t.session.closed = false → r.session.closed = false ∧ t.receiving = r.receiving) :
    t.Heard lease handled ms where
  callbacks_eq := hcallbacks.trans h.callbacks_eq
  handler_isSome := hhandler.trans h.handler_isSome
  lease_eq := hlease.trans h.lease_eq
  receiving_iff hc := by
    obtain ⟨hr, hsame⟩ := hopen hc
    rw [hsame, h.receiving_iff hr]

/-- **One arrival keeps the account.** -/
theorem receive (h : r.Heard lease handled ms) (a : Arrival KeepAliveResponse) :
    (r.receive a).Heard lease handled (ms ++ [r.meeting a]) := by
  cases hc : r.session.closed with
  | true =>
    rw [receive_of_closed hc]
    refine ⟨?_, h.handler_isSome, h.lease_eq,
      fun hopen => absurd (hc.symm.trans hopen) (by decide)⟩
    rw [tellings_append_of_shut ms (by simp [meeting, hc]), h.callbacks_eq]
  | false =>
    have hiff := h.receiving_iff hc
    cases hr : r.receiving with
    | false =>
      -- The task has ended with something that was not delivered.
      have hsome : ∃ m ∈ ms, m.delivered = false := by
        rw [hr] at hiff
        simpa using hiff
      rw [receive_of_stopped hr]
      refine ⟨by rw [tellings_append_of_some hsome, h.callbacks_eq], h.handler_isSome, h.lease_eq,
        fun _ => ?_⟩
      rw [hiff]
      refine ⟨fun hall => ?_, fun hall m hm => hall m (List.mem_append_left _ hm)⟩
      obtain ⟨m, hm, hnot⟩ := hsome
      exact absurd ((hall m hm).symm.trans hnot) (by decide)
    | true =>
      have hall := hiff.1 hr
      refine ⟨?_, ?_, (r.receive_reaches a).lease_eq.trans h.lease_eq, fun _ => ?_⟩
      · rw [receive_callbacks hr, h.handler_isSome, h.callbacks_eq, h.lease_eq,
          tellings_append_of_all hall]
        cases handled <;> rfl
      · rw [receive_handler, h.handler_isSome]
      · rw [receive_receiving, hr, hc, Bool.true_and, Bool.false_or]
        constructor
        · intro hm n hn
          rcases List.mem_append.1 hn with hn | hn
          · exact hall n hn
          · rw [List.mem_singleton.1 hn, hm]
        · exact fun hboth => hboth _ (List.mem_append_right _ List.mem_cons_self)

/-- By induction over the items of one step, each met by the session that the one before has
left. -/
theorem receiveAll (h : r.Heard lease handled ms) (items : List (Arrival KeepAliveResponse)) :
    (items.foldl Run.receive r).Heard lease handled
      (ms ++ observe Run.receive (fun r a => [r.meeting a]) r items) := by
  induction items generalizing r ms with
  | nil => exact (List.append_nil ms).symm ▸ h
  | cons a items ih =>
    have hrest := ih (h.receive a)
    rwa [List.append_assoc] at hrest

/-- One act keeps the account. Only what arrives adds to the record; a firing, a close and a drop
leave it and the calls as they are. -/
theorem act (h : r.Heard lease handled ms) (s : Step) :
    (r.act s).Heard lease handled (ms ++ r.meetingsIn s) := by
  have hsame {t : Run} (ht : t.Heard lease handled ms) : t.Heard lease handled (ms ++ []) := by
    rwa [List.append_nil]
  cases s with
  | arrive items => exact h.receiveAll items
  -- A heartbeat that fires sends a request and touches neither the calls nor the session's being
  -- open.
  | fire i =>
    have hclosed : (r.act (.fire i)).session.closed = r.session.closed := by
      simp only [Run.act]
      split
      · split
        · rfl
        · exact Session.beat_closed _
      · rfl
    refine hsame (h.congr ?_ ?_ (r.act_reaches (.fire i)).lease_eq fun hopen =>
      ⟨hclosed ▸ hopen, ?_⟩) <;>
    · simp only [Run.act]
      split <;> rfl
  | close =>
    refine hsame ?_
    simp only [Run.act]
    split
    -- The session is closed now, and of a closed one the account says no more.
    · refine h.congr rfl rfl (r.session.reaches_perform .close).lease_eq fun hopen => ?_
      exact absurd (hopen.symm.trans r.session.close_closed) (by decide)
    · exact h
  | drop =>
    refine hsame ?_
    simp only [Run.act]
    split
    · exact h.congr rfl rfl rfl fun hopen => ⟨hopen, rfl⟩
    · exact h
  | setHandler b =>
    exact hsame (h.congr rfl (by simp [Run.act]) rfl fun hopen => ⟨hopen, rfl⟩)
  | _ => exact hsame (h.congr rfl rfl rfl fun hopen => ⟨hopen, rfl⟩)

/-- Settling keeps it as well: it stops the task only of a session that is closed, of which the
account says nothing. -/
theorem settle (h : r.Heard lease handled ms) : r.settle.Heard lease handled ms := by
  have hsettled : r.settle.session = r.session ∨ r.settle.session = r.session.close :=
    r.settle_session
  refine h.congr r.settle_callbacks (congrArg Option.isSome r.settle_handler) ?_ fun hopen => ?_
  · rcases hsettled with hs | hs
    · rw [hs]
    · rw [hs]
      exact (r.session.reaches_perform .close).lease_eq
  · have hr : r.session.closed = false := by
      rcases hsettled with hs | hs
      · rwa [hs] at hopen
      · rw [hs, Session.close_closed] at hopen
        exact absurd hopen (by decide)
    refine ⟨hr, ?_⟩
    show (r.decideStart.receiving && !r.settle.session.closed) = r.receiving
    rw [hopen, decideStart_receiving, Bool.not_false, Bool.and_true]

/-- **One step keeps the account.** -/
theorem step (h : r.Heard lease handled ms) (s : Step) :
    (r.step s).Heard lease handled (ms ++ r.meetingsIn s) :=
  (h.act s).settle

/-- So does a script. -/
theorem steps (h : r.Heard lease handled ms) (script : List Step) :
    (r.steps script).Heard lease handled (ms ++ r.meetings script) := by
  induction script generalizing r ms with
  | nil => exact (List.append_nil ms).symm ▸ h
  | cons s script ih =>
    have hrest := ih (h.step s)
    rwa [List.append_assoc] at hrest

/-- The account holds at the beginning, when nothing has arrived. -/
theorem fresh (lease : Int64) (scheduler : Scheduler) (timeout : Option Duration)
    (handler : Option Behaviour) (openFailure : Option Status) :
    (begin lease scheduler timeout handler openFailure).Heard lease handler.isSome [] := by
  have hstart : Heard lease handler.isSome []
      { session := Session.beat { lease, scheduler }, timeout, handler } :=
    ⟨by simp [tellings], rfl, rfl, fun _ => by simp⟩
  unfold begin
  cases openFailure with
  | some s =>
    refine hstart.congr rfl rfl rfl fun hopen => ?_
    exact absurd (hopen.symm.trans (Session.close_closed _)) (by decide)
  | none => exact hstart.settle

end Heard

/-- The record leaves out nothing that arrives. -/
theorem meetings_items (r : Run) (script : List Step) :
    (r.meetings script).map Meeting.item = script.flatMap Step.items := by
  have hitems (r : Run) (items : List (Arrival KeepAliveResponse)) :
      (observe receive (fun r a => [r.meeting a]) r items).map Meeting.item = items := by
    induction items generalizing r with
    | nil => rfl
    | cons a items ih => exact congrArg (a :: ·) (ih (r.receive a))
  have hstep (r : Run) (s : Step) : (r.meetingsIn s).map Meeting.item = s.items := by
    cases s with
    | arrive items => exact hitems r items
    | _ => rfl
  induction script generalizing r with
  | nil => rfl
  | cons s script ih =>
    show (r.meetingsIn s ++ (r.step s).meetings script).map Meeting.item = _
    rw [List.map_append, hstep, ih, List.flatMap_cons]

/-! ### A task that has ended tells nothing -/

/-- Without a receiving task no act reaches the handler. -/
theorem act_callbacks_of_stopped {r : Run} (h : r.receiving = false) (s : Step) :
    (r.act s).callbacks = r.callbacks := by
  cases s with
  | arrive items =>
    simp only [act]
    induction items with
    | nil => rfl
    | cons a items ih => rwa [List.foldl_cons, receive_of_stopped h]
  | fire i => simp only [act]; split <;> rfl
  | close => simp only [act]; split <;> rfl
  | drop => simp only [act]; split <;> rfl
  | _ => rfl

/-- By induction over the script, as no step starts the task again. -/
theorem steps_callbacks_of_stopped {r : Run} (h : r.receiving = false) (script : List Step) :
    (r.steps script).callbacks = r.callbacks := by
  induction script generalizing r with
  | nil => rfl
  | cons s script ih =>
    have hstep : (r.step s).callbacks = r.callbacks :=
      (settle_callbacks _).trans (act_callbacks_of_stopped h s)
    exact (ih (step_of_stopped h s)).trans hstep

/-- Settling ends the task of a closed session. -/
theorem settle_receiving_of_closed {r : Run} (h : r.settle.session.closed = true) :
    r.settle.receiving = false := by
  show (r.decideStart.receiving && !r.settle.session.closed) = false
  rw [h, Bool.not_true, Bool.and_false]

/-- At the end of every step a closed session has no receiving task any more. -/
theorem receiving_of_closed (lease : Int64) (scheduler : Scheduler) (timeout : Option Duration)
    (handler : Option Behaviour) (openFailure : Option Status) (script : List Step)
    (h : ((begin lease scheduler timeout handler openFailure).steps script).session.closed = true) :
    ((begin lease scheduler timeout handler openFailure).steps script).receiving = false := by
  rcases List.eq_nil_or_concat script with rfl | ⟨script, s, rfl⟩
  · unfold begin at h ⊢
    cases openFailure with
    | some s => rfl
    | none => exact settle_receiving_of_closed h
  · rw [List.concat_eq_append, steps_concat] at h ⊢
    exact settle_receiving_of_closed h

/-! ### Who closes a session that was handed out -/

/-- Telling the handler closes an open session only if the handler would have it so. -/
theorem tell_closed {r : Run} (hopen : r.session.closed = false) {listener : Listener}
    {c : Callback KeepAliveResponse} (hclosed : (r.tell listener c).session.closed = true) :
    r.handler = some .close ∧ (r.tell listener c).callbacks = r.callbacks ++ [c] := by
  unfold tell at hclosed ⊢
  cases hb : r.handler with
  | none =>
    rw [hb] at hclosed
    exact absurd (hopen.symm.trans hclosed) (by decide)
  | some b =>
    rw [hb] at hclosed
    cases b with
    | close => exact ⟨rfl, rfl⟩
    | record => exact absurd (hopen.symm.trans hclosed) (by decide)
    | panic p => exact absurd (hopen.symm.trans hclosed) (by decide)

/-- A failure that is reported closes nothing by itself: the handler closed when it was told. -/
theorem fail_closed {r : Run} (hopen : r.session.closed = false) {e : ClientError}
    (hclosed : (r.fail e).session.closed = true) :
    r.handler = some .close ∧ (r.fail e).callbacks = r.callbacks ++ [.error e] := by
  let logged : Run :=
    { r with log := r.log ++ [LogEntry.keepAliveFailed r.session.lease e] }.decide (.error e)
  have hlogged : logged.session.closed = false := hopen
  exact tell_closed hlogged hclosed

/-- What arrives closes a session only through a handler that was told of it. -/
theorem receive_closed {r : Run} (hopen : r.session.closed = false)
    {a : Arrival KeepAliveResponse} (hclosed : (r.receive a).session.closed = true) :
    r.handler = some .close ∧ ∃ c, (r.receive a).callbacks = r.callbacks ++ [c] := by
  unfold receive at hclosed ⊢
  split at hclosed
  · next htakes =>
    rw [if_pos htakes]
    cases a with
    | response response =>
      change (r.handle response).session.closed = true at hclosed
      show r.handler = some .close ∧ ∃ c, (r.handle response).callbacks = r.callbacks ++ [c]
      rcases r.handle_cases hopen response with ⟨-, heq⟩ | ⟨-, heq⟩
      · rw [heq] at hclosed ⊢
        -- A response closes nothing while it is handled: the rearm leaves the session open, and so
        -- does noting the refusal.
        have hrearmed : (r.session.rearm response.ttl).2.closed = false :=
          (Session.rearm_closed _ _).trans hopen
        obtain ⟨hhandler, htold⟩ := tell_closed hrearmed hclosed
        exact ⟨hhandler, _, htold⟩
      · rw [heq] at hclosed ⊢
        have hnoted : (r.decide (.ok response.ttl)).session.closed = false := hopen
        obtain ⟨hhandler, htold⟩ := fail_closed hnoted hclosed
        exact ⟨hhandler, _, htold⟩
    | failure s =>
      obtain ⟨hhandler, htold⟩ := fail_closed hopen hclosed
      exact ⟨hhandler, _, htold⟩
    | finish => exact absurd (hopen.symm.trans hclosed) (by decide)
  · exact absurd (hopen.symm.trans hclosed) (by decide)

/-- An arrival takes back none of the calls before it. -/
theorem receive_callbacks_grow (r : Run) (a : Arrival KeepAliveResponse) :
    r.callbacks <+: (r.receive a).callbacks := by
  cases hr : r.receiving with
  | false => exact ⟨[], by rw [receive_of_stopped hr, List.append_nil]⟩
  | true => exact ⟨_, (receive_callbacks hr a).symm⟩

/-- The same of all the items of one step, by induction over them. -/
theorem receiveAll_callbacks_grow (r : Run) (items : List (Arrival KeepAliveResponse)) :
    r.callbacks <+: (items.foldl receive r).callbacks := by
  induction items generalizing r with
  | nil => exact List.prefix_refl _
  | cons a items ih => exact (r.receive_callbacks_grow a).trans (ih (r.receive a))

/-- No step takes back what the handler was told. -/
theorem step_callbacks_grow (r : Run) (s : Step) : r.callbacks <+: (r.step s).callbacks := by
  rw [step, settle_callbacks]
  cases s with
  | arrive items => exact r.receiveAll_callbacks_grow items
  | fire i => simp only [act]; split <;> exact List.prefix_refl _
  | close => simp only [act]; split <;> exact List.prefix_refl _
  | drop => simp only [act]; split <;> exact List.prefix_refl _
  | _ => exact List.prefix_refl _

/-- If something among the items of a step has closed the session, the handler was called in that
step. -/
theorem receiveAll_closed {r : Run} (hopen : r.session.closed = false)
    {items : List (Arrival KeepAliveResponse)}
    (hclosed : (items.foldl receive r).session.closed = true) :
    r.handler = some .close ∧ r.callbacks ≠ (items.foldl receive r).callbacks := by
  induction items generalizing r with
  | nil => exact absurd (hopen.symm.trans hclosed) (by decide)
  | cons a items ih =>
    rw [List.foldl_cons] at hclosed ⊢
    have hfirst := r.receive_callbacks_grow a
    have hrest := (r.receive a).receiveAll_callbacks_grow items
    cases hc : (r.receive a).session.closed with
    -- The first item has not closed the session, so one of the others did.
    | false =>
      obtain ⟨hhandler, hne⟩ := ih hc hclosed
      rw [receive_handler] at hhandler
      refine ⟨hhandler, fun heq => hne ?_⟩
      rw [heq] at hfirst
      exact hrest.eq_of_length_le hfirst.length_le
    -- The first item has closed it, with a call that stays on the record.
    | true =>
      obtain ⟨hhandler, c, htold⟩ := receive_closed hopen hc
      refine ⟨hhandler, fun heq => ?_⟩
      rw [← heq, htold] at hrest
      have hlength := hrest.length_le
      rw [List.length_append, List.length_singleton] at hlength
      omega

/-- **Only a close closes a session that was handed out,** by its caller or by the handler when it
is told something. -/
theorem step_closed {r : Run} (hready : r.start.isReady = true) (hopen : r.session.closed = false)
    {s : Step} (hclosed : (r.step s).session.closed = true) :
    s = .close ∨ (r.handler = some .close ∧ r.callbacks ≠ (r.step s).callbacks) := by
  have hstart : (r.act s).start.isReady = true := by rwa [act_start]
  -- The start was decided before, so settling leaves the session as the act left it.
  have hsettle : (r.step s).session = (r.act s).session := by
    show (r.act s).decideStart.session = _
    unfold decideStart
    split
    · next hwaiting =>
      rw [hwaiting] at hstart
      exact absurd hstart Bool.false_ne_true
    · rfl
  have hcallbacks : (r.step s).callbacks = (r.act s).callbacks := settle_callbacks _
  rw [hsettle] at hclosed
  rw [hcallbacks]
  have hstays (h : (r.act s).session.closed = r.session.closed) : False :=
    absurd ((hopen.symm.trans h.symm).trans hclosed) (by decide)
  cases s with
  | arrive items => exact .inr (receiveAll_closed hopen hclosed)
  | close => exact .inl rfl
  | fire i =>
    refine (hstays ?_).elim
    simp only [act]
    split
    · split
      · rfl
      · exact Session.beat_closed _
    · rfl
  | drop =>
    refine (hstays ?_).elim
    simp only [act]
    split <;> rfl
  | _ => exact (hstays rfl).elim

/-- **Responses are delivered while the session is open, its scheduler willing, its stream whole.**
The handler is told what the record of arrivals says: each response in order and unchanged, as long
as it finds the session open and its heartbeat is accepted, then at most one error, which is the
status of the failure or the refusal of the heartbeat, and then nothing. It is never told of the end
of the stream, nor of anything that finds the session closed, also if that was queued behind the
response whose call closed it. Once a session was handed out nothing closes it but a close. -/
theorem delivery_while_open (lease : Int64) (scheduler : Scheduler) (timeout : Option Duration)
    (handler : Option Behaviour) (openFailure : Option Status) (script : List Step) :
    let start := begin lease scheduler timeout handler openFailure
    let r := start.steps script
    let meetings := start.meetings script
    meetings.map Meeting.item = script.flatMap Step.items ∧
      r.callbacks = (if handler.isSome then tellings lease meetings else []) ∧
      (∃ (responses : List KeepAliveResponse) (last : List (Callback KeepAliveResponse)),
        r.callbacks = responses.map .response ++ last ∧ (last = [] ∨ ∃ e, last = [.error e])) ∧
      (r.session.closed = false →
        (r.receiving = true ↔ ∀ m ∈ meetings, m.delivered = true)) ∧
      (∀ before m after, meetings = before ++ m :: after → m.opened = false →
        r.callbacks = if handler.isSome then tellings lease before else []) ∧
      (r.session.closed = true → ∀ later, (r.steps later).callbacks = r.callbacks) ∧
      (r.start.isReady = true → r.session.closed = false →
        ∀ s, (r.step s).session.closed = true →
          s = .close ∨ (r.handler = some .close ∧ r.callbacks ≠ (r.step s).callbacks)) := by
  intro start r meetings
  have hheard : r.Heard lease handler.isSome meetings :=
    (Heard.fresh lease scheduler timeout handler openFailure).steps script
  have htold := hheard.callbacks_eq
  refine ⟨start.meetings_items script, htold, ?_, hheard.receiving_iff,
    fun before m after heq hshut => ?_, fun hclosed => ?_,
    fun hready hopen s => step_closed hready hopen⟩
  · cases hh : handler.isSome with
    | false => exact ⟨[], [], by rw [htold, hh]; rfl, .inl rfl⟩
    | true =>
      rw [htold, hh, if_pos rfl]
      exact tellings_shape meetings
  · rw [htold, heq, tellings_append_of_shut before hshut]
  · exact steps_callbacks_of_stopped
      (receiving_of_closed lease scheduler timeout handler openFailure script hclosed)

/-- The handler closes the session when it is told of the second response, and what is queued behind
that is not delivered, nor is anything that comes later. -/
theorem delivery_while_open_until_handler_closes :
    let start := begin 7 {} none (some .record) none
    let before : List Step := [.arrive [.response { id := 7, ttl := 10 }], .setHandler .close]
    let closing : Step :=
      .arrive [.response { id := 7, ttl := 9 }, .response { id := 7, ttl := 8 }]
    let r := start.steps before
    let t := start.steps (before ++ [closing])
    (r.start.isReady = true ∧ r.session.closed = false ∧ r.receiving = true) ∧
      t.session.closed = true ∧
      t.callbacks = [.response { id := 7, ttl := 10 }, .response { id := 7, ttl := 9 }] ∧
      r.handler = some .close ∧ ∀ later, (t.steps later).callbacks = t.callbacks := by
  intro start before closing r t
  have hready : r.start.isReady = true := rfl
  have hopen : r.session.closed = false := rfl
  have hclosed : t.session.closed = true := rfl
  obtain ⟨-, -, -, hreceiving, -, -, hcloser⟩ :=
    delivery_while_open 7 {} none (some .record) none before
  obtain ⟨-, -, -, -, hqueued, hlater, -⟩ :=
    delivery_while_open 7 {} none (some .record) none (before ++ [closing])
  have hall : ∀ m ∈ start.meetings before, m.delivered = true :=
    List.forall_mem_singleton.2 rfl
  have hhandler := hcloser hready hopen closing rfl
  refine ⟨⟨hready, hopen, (hreceiving hopen).2 hall⟩, hclosed, ?_, ?_, hlater hclosed⟩
  · -- The third response finds the session closed.
    exact hqueued [start.meeting (.response { id := 7, ttl := 10 }),
      r.meeting (.response { id := 7, ttl := 9 })] _ [] rfl rfl
  · exact (hhandler.resolve_left nofun).1

end Run
end KeepAlive
end EtcdClient
