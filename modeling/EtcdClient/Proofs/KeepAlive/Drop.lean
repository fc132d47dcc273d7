import EtcdClient.Proofs.KeepAlive.Delivery
import Mathlib.Data.List.Induction

/-
# A session that is dropped

A keep-alive session is held by its caller and by its receiving task. A caller that drops it takes
away one of the two, so as long as the task receives nothing else changes, and when the task ends
nothing holds the session any more:

| the task | a heartbeat that fires | the requests | the handler |
| --- | --- | --- | --- |
| receives | sends, held by the task | go on | is told what arrives |
| has ended | finds no session | are at their end | is told nothing |

`Run.unheld` is a run as it is for everybody but its caller, and `Alongside` says that two runs are
the same in that respect and that in the second nobody has the session in hand. Every part of a step
leaves them so unless the caller closes the session in the first (`Alongside.step`), so the run in
which a session is dropped goes along with the one in which it is kept until the task ends.

Source: `SPEC_FULL.md` §10.4 on a keep-alive sentinel that is dropped while it is open.
-/

namespace EtcdClient
namespace KeepAlive
namespace Run

/-- The run as it is for everybody but its caller: who has the session in hand does not count, nor
does what is logged. -/
def unheld (r : Run) : Run := { r with held := false, log := [] }

/-- Two runs of which the caller has let the second one go, and that are otherwise the same. -/
structure Alongside (kept dropped : Run) : Prop where
  unheld_eq : kept.unheld = dropped.unheld
  let_go : dropped.held = false

/-- If the handler leaves the session as it is, it is told and no more. -/
theorem tell_unheld {r : Run} {listener : Listener} {c : Callback KeepAliveResponse}
    (h : (r.tell listener c).session = r.session) :
    (r.tell listener c).unheld = { r.unheld with
      callbacks := r.unheld.callbacks ++ if r.unheld.handler.isSome then [c] else [] } := by
  unfold tell at h ⊢
  cases hb : r.handler with
  | none => simp [unheld, hb]
  | some b =>
    rw [hb] at h
    dsimp only at h
    simp only [unheld, hb, h]
    rfl

/-- Nothing that arrives at a closed session is taken. -/
theorem receiveAll_of_closed {r : Run} (h : r.session.closed = true)
    (items : List (Arrival KeepAliveResponse)) : items.foldl receive r = r := by
  induction items with
  | nil => rfl
  | cons a items ih => rw [List.foldl_cons, receive_of_closed h, ih]

/-- Once a start has handed out its session nothing is left for it to decide. -/
theorem step_of_ready {r : Run} (h : r.start.isReady = true) (s : Step) :
    r.step s =
      { r.act s with receiving := (r.act s).receiving && !(r.act s).session.closed } := by
  have hdecided : (r.act s).decideStart = r.act s := by
    have hact := r.act_start s
    unfold decideStart
    split
    · next hwaiting =>
      rw [← hact, hwaiting] at h
      exact absurd h Bool.false_ne_true
    · rfl
  rw [step, settle, hdecided]

namespace Alongside

variable {kept dropped : Run}

/-- The session is the same in both runs. -/
theorem session_eq (h : kept.Alongside dropped) : kept.session = dropped.session := by
  show kept.unheld.session = dropped.unheld.session
  rw [h.unheld_eq]

/-- So is the task. -/
theorem receiving_eq (h : kept.Alongside dropped) : kept.receiving = dropped.receiving := by
  show kept.unheld.receiving = dropped.unheld.receiving
  rw [h.unheld_eq]

/-- So is the start. -/
theorem start_eq (h : kept.Alongside dropped) : kept.start = dropped.start := by
  show kept.unheld.start = dropped.unheld.start
  rw [h.unheld_eq]

/-- So is all that the handler was told. -/
theorem callbacks_eq (h : kept.Alongside dropped) : kept.callbacks = dropped.callbacks := by
  show kept.unheld.callbacks = dropped.unheld.callbacks
  rw [h.unheld_eq]

/-- In the run in which it was dropped nobody has the session in hand, so its handler cannot close
it. -/
theorem not_handedOut (h : kept.Alongside dropped) : dropped.handedOut = false := by
  rw [handedOut, h.let_go, Bool.false_and]

/-- Two runs that get the same session go on alongside. -/
theorem withSession (h : kept.Alongside dropped) (s : Session) :
    Alongside { kept with session := s } { dropped with session := s } :=
  ⟨congrArg (fun t : Run => { t with session := s }) h.unheld_eq, h.let_go⟩

/-- Noting an outcome keeps them alongside. -/
theorem decide (h : kept.Alongside dropped) (o : Result Int64) :
    (kept.decide o).Alongside (dropped.decide o) :=
  ⟨congrArg (·.decide o) h.unheld_eq, h.let_go⟩

/-- Stopping the task in both keeps them alongside. -/
theorem stop (h : kept.Alongside dropped) :
    Alongside { kept with receiving := false } { dropped with receiving := false } :=
  ⟨congrArg (fun t : Run => { t with receiving := false }) h.unheld_eq, h.let_go⟩

/-! ### The parts of a step -/

/-- A handler that is told the same in both does the same, unless it closes the session in the one
in which it is held. -/
theorem tell (h : kept.Alongside dropped) {listener : Listener} {c : Callback KeepAliveResponse}
    (hopen : (kept.tell listener c).session.closed = false) :
    (kept.tell listener c).Alongside (dropped.tell listener c) := by
  have hkept : (kept.tell listener c).session = kept.session := by
    refine (tell_session kept listener c).resolve_right fun hclose => ?_
    rw [hclose, Session.close_closed] at hopen
    exact absurd hopen (by decide)
  have hdropped : (dropped.tell listener c).session = dropped.session := by
    unfold Run.tell
    split
    · rfl
    · dsimp only
      split
      · rw [if_neg (by simp [h.not_handedOut])]
      · rfl
  refine ⟨?_, (tell_held _ _ _).trans h.let_go⟩
  rw [tell_unheld hkept, tell_unheld hdropped, h.unheld_eq]

/-- A failure is told, so it keeps them alongside under the same condition. -/
theorem fail (h : kept.Alongside dropped) {e : ClientError}
    (hopen : (kept.fail e).session.closed = false) :
    (kept.fail e).Alongside (dropped.fail e) := by
  let logged (r : Run) : Run :=
    { r with log := r.log ++ [LogEntry.keepAliveFailed r.session.lease e] }
  have hlogged : (logged kept).Alongside (logged dropped) := ⟨h.unheld_eq, h.let_go⟩
  exact ((hlogged.decide (.error e)).tell hopen).stop

/-- A response, too, is told last. -/
theorem handle (h : kept.Alongside dropped) {response : KeepAliveResponse}
    (hopen : (kept.handle response).session.closed = false) :
    (kept.handle response).Alongside (dropped.handle response) := by
  have hnoted := h.decide (.ok response.ttl)
  unfold Run.handle at hopen ⊢
  dsimp only [decide_session] at hopen ⊢
  rw [h.session_eq] at hopen ⊢
  split at hopen
  · exact (hnoted.withSession _).tell hopen
  · exact (hnoted.withSession _).fail hopen

/-- One arrival keeps them alongside as long as nobody closes the session over it. -/
theorem receive (h : kept.Alongside dropped) {a : Arrival KeepAliveResponse}
    (hopen : (kept.receive a).session.closed = false) :
    (kept.receive a).Alongside (dropped.receive a) := by
  unfold Run.receive at hopen ⊢
  rw [h.session_eq, h.receiving_eq] at hopen ⊢
  split
  · next htakes =>
    rw [if_pos htakes] at hopen
    cases a with
    | response response => exact h.handle hopen
    | failure s => exact h.fail hopen
    | finish => exact (h.decide (.error streamEnded)).stop
  · exact h

/-- By induction over the items of a step: a session that is open after all of them was open after
each. -/
theorem receiveAll (h : kept.Alongside dropped) {items : List (Arrival KeepAliveResponse)}
    (hopen : (items.foldl Run.receive kept).session.closed = false) :
    (items.foldl Run.receive kept).Alongside (items.foldl Run.receive dropped) := by
  induction items generalizing kept dropped with
  | nil => exact h
  | cons a items ih =>
    refine ih (h.receive ?_) hopen
    cases hc : (kept.receive a).session.closed with
    | false => rfl
    | true =>
      rw [List.foldl_cons, receiveAll_of_closed hc, hc] at hopen
      exact hopen

/-- One act keeps them alongside. Dropping the session is among the acts, and it changes what
`unheld` leaves out. -/
theorem act (h : kept.Alongside dropped) (hreceiving : kept.receiving = true) {s : Step}
    (hopen : (kept.act s).session.closed = false) :
    (kept.act s).Alongside (dropped.act s) := by
  cases s with
  | arrive items => exact h.receiveAll hopen
  | fire i =>
    -- The task holds the session in both runs, so the heartbeat finds it.
    have hfound : kept.released = false := by
      rw [released, hreceiving]
      exact Bool.and_false _
    have hfound' : dropped.released = false := by
      rw [released, ← h.receiving_eq, hreceiving]
      exact Bool.and_false _
    simp only [Run.act, hfound, hfound', h.session_eq]
    split
    · exact h.withSession _
    · exact h
  | close =>
    have hkept : kept.handedOut = false := by
      cases hout : kept.handedOut with
      | false => rfl
      | true =>
        rw [Run.act, if_pos hout] at hopen
        exact absurd (hopen.symm.trans (Session.close_closed _)) Bool.false_ne_true
    rwa [Run.act, Run.act, if_neg (by simp [hkept]), if_neg (by simp [h.not_handedOut])]
  | drop =>
    have hdropped : dropped.act .drop = dropped := by
      rw [Run.act, if_neg (by simp [h.not_handedOut])]
    rw [hdropped, Run.act]
    split
    · exact ⟨h.unheld_eq, h.let_go⟩
    · exact h
  | advance d => exact ⟨congrArg (·.act (.advance d)) h.unheld_eq, h.let_go⟩
  | shutdownScheduler => exact ⟨congrArg (·.act .shutdownScheduler) h.unheld_eq, h.let_go⟩
  | refuse b => exact ⟨congrArg (·.act (.refuse b)) h.unheld_eq, h.let_go⟩
  | hangUp => exact ⟨congrArg (·.act .hangUp) h.unheld_eq, h.let_go⟩
  | setHandler b => exact ⟨congrArg (·.act (.setHandler b)) h.unheld_eq, h.let_go⟩

/-! ### Every step while the task receives -/

/-- **A step leaves the runs alongside,** the one that ends the task included. -/
theorem step (h : kept.Alongside dropped) (hready : kept.start.isReady = true)
    (hreceiving : kept.receiving = true) {s : Step}
    (hopen : (kept.step s).session.closed = false) :
    (kept.step s).Alongside (dropped.step s) := by
  have hready' : dropped.start.isReady = true := h.start_eq ▸ hready
  rw [step_of_ready hready] at hopen ⊢
  rw [step_of_ready hready']
  have hact := h.act hreceiving hopen
  exact ⟨congrArg (fun t : Run => { t with receiving := t.receiving && !t.session.closed })
    hact.unheld_eq, hact.let_go⟩

/-- So does a script, up to and including the step that ends the task. -/
theorem steps (h : kept.Alongside dropped) (hvalid : kept.session.Valid)
    (hready : kept.start.isReady = true) {script : List Step}
    (hreceiving : ∀ first s, script = first ++ [s] → (kept.steps first).receiving = true)
    (hopen : (kept.steps script).session.closed = false) :
    (kept.steps script).Alongside (dropped.steps script) := by
  -- From the end of the script, because the task is known to receive before its last step.
  induction script using List.reverseRecOn with
  | nil => exact h
  | append_singleton script s ih =>
    have hlast : (kept.steps script).receiving = true := hreceiving script s rfl
    -- A task that receives before the last step did so before every step, since none is started
    -- again.
    have hearlier : ∀ first t, script = first ++ [t] → (kept.steps first).receiving = true := by
      rintro first t rfl
      cases hr : (kept.steps first).receiving with
      | true => rfl
      | false =>
        rw [steps_concat, step_of_stopped hr] at hlast
        exact absurd hlast Bool.false_ne_true
    -- A start that was decided stays so, and the steps of a decided start only act.
    have hready' : (kept.steps script).start.isReady = true := by
      have hsame : (kept.steps script).start = kept.start := by
        refine start_foldl_of_decided step_start_of_decided (fun hwaiting => ?_) script
        rw [hwaiting] at hready
        exact absurd hready Bool.false_ne_true
      rwa [hsame]
    rw [steps_concat] at hopen ⊢
    rw [steps_concat]
    have hopen' := (Run.step_reaches _ s).opened (valid_steps hvalid script) hopen
    exact (ih hearlier hopen').step hready' hlast hopen

end Alongside

/-- A caller that drops an open session takes away what only the caller sees. -/
theorem alongside_drop {r : Run} (hout : r.handedOut = true) (hreceiving : r.receiving = true)
    (hopen : r.session.closed = false) : r.Alongside (r.step .drop) := by
  have hready : r.start.isReady = true := by
    rw [handedOut, Bool.and_eq_true] at hout
    exact hout.2
  rw [step_of_ready hready, act, if_pos hout]
  refine ⟨?_, rfl⟩
  dsimp only [unheld]
  rw [hopen, hreceiving]
  rfl

/-- What a run that was let go, and whose task has ended, still sends or tells: nothing. -/
theorem steps_of_released {r : Run} (h : r.session.Valid) (hreleased : r.released = true)
    (script : List Step) :
    (r.steps script).requestsEnded = true ∧
      (r.steps script).session.requests = r.session.requests ∧
      (r.steps script).callbacks = r.callbacks := by
  obtain ⟨-, hstopped⟩ := r.released_iff.1 hreleased
  obtain ⟨hended, hrequests⟩ :=
    steps_of_requestsEnded h ((requestsEnded_iff h).2 (.inr hreleased)) script
  exact ⟨hended, hrequests, steps_callbacks_of_stopped hstopped script⟩

/-- **A drop is not seen while the task receives, and is the end once it does not.** Let a caller
drop a session that was handed out to it and whose task receives. If the session is not closed when
it is kept instead, then up to and including the step in which the task ends it is the same session
as if it had been kept, in the requests that the server read and in every heartbeat with its delay
and whether it is cancelled, and the handler was told the same; the requests end with the task. From
then on nothing that happens sends anything, and the handler is told nothing. -/
theorem dropped_unseen_until_task_ends (lease : Int64) (down refusing : Bool)
    (timeout : Option Duration) (handler : Option Behaviour) (openFailure : Option Status)
    (before after : List Step) :
    let start := begin lease { down, refusing } timeout handler openFailure
    let kept := start.steps (before ++ after)
    let dropped := start.steps (before ++ .drop :: after)
    (start.steps before).handedOut = true → (start.steps before).receiving = true →
      (kept.session.closed = false →
        (∀ first s, after = first ++ [s] → (start.steps (before ++ first)).receiving = true) →
          dropped.session = kept.session ∧ dropped.callbacks = kept.callbacks ∧
            dropped.receiving = kept.receiving ∧ dropped.requestsEnded = !dropped.receiving) ∧
      (dropped.receiving = false → ∀ later,
        (dropped.steps later).requestsEnded = true ∧
          (dropped.steps later).session.requests = dropped.session.requests ∧
          (dropped.steps later).callbacks = dropped.callbacks) := by
  intro start kept dropped hout hreceiving
  have hbegin : start.session.Valid :=
    valid_begin lease down refusing timeout handler openFailure
  have hkept : kept = (start.steps before).steps after := start.steps_append before after
  have hdropped : dropped = ((start.steps before).step .drop).steps after :=
    start.steps_append before (.drop :: after)
  have hvalid : (start.steps before).session.Valid := valid_steps hbegin before
  have hlater : dropped.session.Valid := valid_steps hbegin _
  refine ⟨fun hopen htask => ?_, fun hended later => ?_⟩
  -- Open at the end means open all along, since a closed session stays closed.
  · have hbefore : (start.steps before).session.closed = false :=
      ((start.steps before).steps_reaches after).opened hvalid (hkept ▸ hopen)
    have hready : (start.steps before).start.isReady = true := by
      rw [handedOut, Bool.and_eq_true] at hout
      exact hout.2
    have htask' : ∀ first s, after = first ++ [s] →
        ((start.steps before).steps first).receiving = true := fun first s hsplit => by
      rw [← steps_append]
      exact htask first s hsplit
    -- The drop itself keeps the runs alongside, and from then on every step does.
    have halong : kept.Alongside dropped := by
      rw [hkept] at hopen ⊢
      rw [hdropped]
      exact (alongside_drop hout hreceiving hbefore).steps hvalid hready htask' hopen
    refine ⟨halong.session_eq.symm, halong.callbacks_eq.symm, halong.receiving_eq.symm, ?_⟩
    rw [requestsEnded, hlater.sending_eq, ← halong.session_eq, hopen, released, halong.let_go]
    rfl
  -- After the drop nobody holds the session but the task, and the task has ended.
  · have hdrop : ((start.steps before).act .drop).held = false := by
      rw [act, if_pos hout]
    have hlet_go : dropped.held = false := by
      rw [hdropped]
      exact steps_of_let_go (settle_of_let_go hdrop) after
    exact steps_of_released hlater (dropped.released_iff.2 ⟨hlet_go, hended⟩) later

/-- A session of which a caller lets go after the first response sends the heartbeat that is due and
schedules another one, and when its stream has ended that one sends nothing. -/
theorem dropped_unseen_until_stream_ends :
    let start := begin 7 {} none (some .record) none
    let before : List Step := [.arrive [.response { id := 7, ttl := 10 }]]
    let after : List Step :=
      [.fire 0, .arrive [.response { id := 7, ttl := 20 }], .arrive [.finish]]
    let kept := start.steps (before ++ after)
    let dropped := start.steps (before ++ .drop :: after)
    (start.steps before).handedOut = true ∧ (start.steps before).receiving = true ∧
      kept.session.closed = false ∧ dropped.receiving = false ∧
      dropped.session = kept.session ∧ dropped.callbacks = kept.callbacks ∧
      dropped.session.requests = [.leaseKeepAlive 7, .leaseKeepAlive 7] ∧
      dropped.session.scheduler.heartbeats.map Heartbeat.delay = [.ofSeconds 6, .ofSeconds 11] ∧
      (dropped.steps [.fire 1]).session.requests = dropped.session.requests := by
  intro start before after kept dropped
  have hout : (start.steps before).handedOut = true := by dsimp only [start, before]; rfl
  have hreceiving : (start.steps before).receiving = true := by dsimp only [start, before]; rfl
  have hopen : kept.session.closed = false := by dsimp only [kept, start, before, after]; rfl
  have hended : dropped.receiving = false := by dsimp only [dropped, start, before, after]; rfl
  -- The task ends at the last step and not before it, so nothing is seen of the drop.
  have htask : ∀ first s, after = first ++ [s] →
      (start.steps (before ++ first)).receiving = true := by
    intro first s hsplit
    have hlast : [_, _] ++ [_] = first ++ [s] := hsplit
    obtain ⟨rfl, -⟩ := List.append_inj' hlast rfl
    dsimp only [start, before]
    rfl
  obtain ⟨hunseen, hfinal⟩ :=
    dropped_unseen_until_task_ends 7 false false none (some .record) none before after
      hout hreceiving
  obtain ⟨hsession, hcallbacks, -, -⟩ := hunseen hopen htask
  obtain ⟨-, hrequests, -⟩ := hfinal hended [.fire 1]
  have hlater : (dropped.steps [.fire 1]).session.requests = dropped.session.requests := by
    with_reducible exact hrequests
  have hsent : dropped.session.requests = [.leaseKeepAlive 7, .leaseKeepAlive 7] := by
    dsimp only [dropped, start, before, after]
    rfl
  have hdelays : dropped.session.scheduler.heartbeats.map Heartbeat.delay =
      [.ofSeconds 6, .ofSeconds 11] := by
    dsimp only [dropped, start, before, after]
    rfl
  exact ⟨hout, hreceiving, hopen, hended, hsession, hcallbacks, hsent, hdelays, hlater⟩

end Run
end KeepAlive
end EtcdClient
