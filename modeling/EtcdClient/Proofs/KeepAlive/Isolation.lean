import EtcdClient.Proofs.KeepAlive.Delivery
import EtcdClient.Proofs.Session.Lapses

/-
# Keep-alive sessions are not disturbed by handlers and deaf servers

Two maps of runs that every step respects:

| map | what it forgets | what follows |
| --- | --- | --- |
| `Run.apart` | the handler, its calls, the log | `Alike.steps`, `stepsLapsing_congr` |
| `Run.deafened` | what the server reads from now on | `stepsThrowing_hangUp` |

By the first every run is, but for what it forgets, the run of a handler that only records, as long
as what handlers panic with is dropped quietly. By the second the server may as well stop reading at
the end, if what it has read by then is forgotten.

A step in which nothing arrives and the handler is set, or the server stops reading, does no more
than that, because all that happens by itself has happened before (`Idle`).

Source: `SPEC_FULL.md` §7 and §10.4: handlers are called under `isolate`.
-/

namespace EtcdClient
namespace KeepAlive

/-- A step that is not about what the handler does. -/
def Step.isOutward : Step → Bool
  | .setHandler _ => false
  | _ => true

/-- A script without what it says about the handler. -/
def outward (script : List Step) : List Step := script.filter Step.isOutward

namespace Run

/-- The receiving task takes what arrived, with a handler that has lapses. It is called at most
once, after all the calls so far. -/
def receiveLapsing (l : Lapses) (r : Run) (a : Arrival KeepAliveResponse) : Run :=
  { { r with handler := r.handler.map (l.behaviour r.callbacks.length) }.receive a with
    handler := r.handler }

/-- One step and what follows from it, with a handler that has lapses. -/
def stepLapsing (l : Lapses) (r : Run) : Step → Run
  | .arrive items => (items.foldl (receiveLapsing l) r).settle
  | s => r.step s

/-- A run after a script, with a handler that has lapses. -/
def stepsLapsing (l : Lapses) (r : Run) (script : List Step) : Run :=
  script.foldl (stepLapsing l) r

/-- Without lapses these are the runs as they are. -/
theorem stepsLapsing_never (r : Run) (script : List Step) :
    r.stepsLapsing .never script = r.steps script := by
  have hreceive : receiveLapsing .never = receive := by
    funext r a
    have hset : r.handler.map (Lapses.never.behaviour r.callbacks.length) = r.handler :=
      congrFun Option.map_id r.handler
    rw [receiveLapsing, hset]
    show { r.receive a with handler := r.handler } = r.receive a
    rw [← r.receive_handler a]
  have hstep : stepLapsing .never = step := by
    funext r s
    cases s with
    | arrive items => rw [stepLapsing, hreceive]; rfl
    | _ => rfl
  rw [stepsLapsing, hstep]
  rfl

/-! ### Values that panic when they are dropped -/

/-- The receiving task takes what arrived, with a handler that throws values. If the handler is
called and throws one that panics when it is dropped, the task ends with that. The start needs no
more of the task then: an outcome is noted before the handler is told. -/
def receiveThrowing (t : Throws) (r : Run) (a : Arrival KeepAliveResponse) : Run :=
  let told := r.receiveLapsing t.lapses a
  if r.callbacks.length < told.callbacks.length ∧ t.breaksOut r.callbacks.length then
    { told with receiving := false }
  else told

/-- One step and what follows from it, with a handler that throws values. -/
def stepThrowing (t : Throws) (r : Run) : Step → Run
  | .arrive items => (items.foldl (receiveThrowing t) r).settle
  | s => r.step s

/-- A run after a script, with a handler that throws values. -/
def stepsThrowing (t : Throws) (r : Run) (script : List Step) : Run :=
  script.foldl (stepThrowing t) r

/-- Of values that are dropped quietly no more is seen than of the panics that are caught. -/
theorem stepsThrowing_of_quiet {t : Throws} (ht : t.Quiet) (r : Run) (script : List Step) :
    r.stepsThrowing t script = r.stepsLapsing t.lapses script := by
  have hreceive : receiveThrowing t = receiveLapsing t.lapses := by
    funext r a
    exact if_neg fun h => absurd h.2 (by simp [ht r.callbacks.length])
  have hstep : stepThrowing t = stepLapsing t.lapses := by
    funext r s
    cases s with
    | arrive items => rw [stepThrowing, hreceive]; rfl
    | _ => rfl
  rw [stepsThrowing, hstep]
  rfl

/-- If nothing is thrown these are the runs as they are. -/
theorem stepsThrowing_never (r : Run) (script : List Step) :
    r.stepsThrowing .never script = r.steps script :=
  (stepsThrowing_of_quiet Throws.quiet_never r script).trans (r.stepsLapsing_never script)

/-- A task that has ended makes no call, so nothing is thrown. -/
theorem receiveThrowing_of_stopped {r : Run} (h : r.receiving = false) (t : Throws)
    (a : Arrival KeepAliveResponse) : r.receiveThrowing t a = r := by
  let lapsed : Run := { r with handler := r.handler.map (t.lapses.behaviour r.callbacks.length) }
  have hlapsing : r.receiveLapsing t.lapses a = r :=
    congrArg (fun q : Run => { q with handler := r.handler }) (receive_of_stopped (r := lapsed) h a)
  rw [receiveThrowing, hlapsing]
  exact if_neg fun hbreaks => Nat.lt_irrefl _ hbreaks.1

/-- A run whose task has ended, behind the same run with its task going on. -/
structure Behind (r p : Run) : Prop where
  stopped : r.receiving = false
  told : r.callbacks <+: p.callbacks

namespace Behind

variable {r p : Run}

/-- What arrives is lost on a task that has ended, and may be told by the one that goes on. -/
theorem receive (h : r.Behind p) (t : Throws) (a : Arrival KeepAliveResponse) :
    (r.receiveThrowing t a).Behind (p.receiveLapsing t.lapses a) := by
  let lapsed : Run := { p with handler := p.handler.map (t.lapses.behaviour p.callbacks.length) }
  have hgrow : lapsed.callbacks <+: (lapsed.receive a).callbacks := lapsed.receive_callbacks_grow a
  rw [receiveThrowing_of_stopped h.stopped]
  exact ⟨h.stopped, h.told.trans hgrow⟩

/-- A step in which nothing is told leaves the two as they are. -/
theorem step (h : r.Behind p) (s : Step) : (r.step s).Behind (p.step s) where
  stopped := step_of_stopped h.stopped s
  told := by
    have hsame : (r.step s).callbacks = r.callbacks := steps_callbacks_of_stopped h.stopped [s]
    rw [hsame]
    exact h.told.trans (p.step_callbacks_grow s)

/-- Settling keeps a run behind, being a step in which nothing arrives. -/
theorem settle (h : r.Behind p) : r.settle.Behind p.settle := h.step (.arrive [])

/-- So no step lets a task that has ended catch up. -/
theorem stepThrowing (h : r.Behind p) (t : Throws) (s : Step) :
    (r.stepThrowing t s).Behind (p.stepLapsing t.lapses s) := by
  cases s with
  | arrive items => exact (List.foldl_rel h fun a _ r p hrp => hrp.receive t a).settle
  | _ => exact h.step _

end Behind

/-- **A value that panics when it is dropped takes away from the end.** Whatever a handler throws,
it is told a beginning of what it would be told if all of it were dropped quietly. -/
theorem stepsThrowing_callbacks_prefix (t : Throws) (r : Run) (script : List Step) :
    (r.stepsThrowing t script).callbacks <+: (r.stepsLapsing t.lapses script).callbacks := by
  -- The two runs are one until a value breaks out, and from then on the first has no task.
  have hreceive (r : Run) (a : Arrival KeepAliveResponse) :
      r.receiveThrowing t a = r.receiveLapsing t.lapses a ∨
        (r.receiveThrowing t a).Behind (r.receiveLapsing t.lapses a) := by
    unfold receiveThrowing
    dsimp only
    split
    · exact .inr ⟨rfl, List.prefix_refl _⟩
    · exact .inl rfl
  have hstep (r : Run) (s : Step) : r.stepThrowing t s = r.stepLapsing t.lapses s ∨
      (r.stepThrowing t s).Behind (r.stepLapsing t.lapses s) := by
    cases s with
    | arrive items =>
      rcases foldl_eq_or_rel hreceive (fun r p a h => h.receive t a) r items with heq | hbehind
      · exact .inl (congrArg settle heq)
      · exact .inr hbehind.settle
    | _ => exact .inl rfl
  rcases foldl_eq_or_rel hstep (fun r p s h => h.stepThrowing t s) r script with heq | hbehind
  · rw [stepsThrowing, heq]
    exact List.prefix_refl _
  · exact hbehind.told

/-! ### Settling once is enough -/

/-- Everything has happened that happens by itself. -/
def Idle (r : Run) : Prop := r.settle = r

/-- A start that can be decided is decided at once. -/
theorem decideStart_decideStart (r : Run) : r.decideStart.decideStart = r.decideStart := by
  rcases r.decideStart_cases with h | h | ⟨e, h⟩
  · rw [h, h]
  · rw [h]
    rfl
  · rw [h]
    rfl

/-- Whether the start can be decided has nothing to do with the receiving task. -/
theorem decideStart_receiving_eq (r : Run) (b : Bool) :
    { r with receiving := b }.decideStart = { r.decideStart with receiving := b } := by
  unfold decideStart
  dsimp only
  split
  · split
    · split <;> rfl
    · rfl
    · split
      · split <;> rfl
      · rfl
  · rfl

/-- What happens by itself has happened when all has settled. -/
theorem settle_idle (r : Run) : r.settle.Idle := by
  have hdecided : r.settle.decideStart = r.settle := by
    unfold settle
    rw [decideStart_receiving_eq, decideStart_decideStart]
  have hreceiving : r.settle.receiving = (r.settle.receiving && !r.settle.session.closed) := by
    show (r.decideStart.receiving && !r.decideStart.session.closed) =
      (r.decideStart.receiving && !r.decideStart.session.closed && !r.decideStart.session.closed)
    rw [Bool.and_assoc, Bool.and_self]
  show { r.settle.decideStart with
    receiving := r.settle.decideStart.receiving && !r.settle.decideStart.session.closed } = _
  rw [hdecided, ← hreceiving]

/-- So it has after every step, whatever the handler does. -/
theorem stepLapsing_idle (l : Lapses) (r : Run) (s : Step) : (r.stepLapsing l s).Idle := by
  cases s <;> exact settle_idle _

/-- After a step there is nothing left that would happen by itself, whatever was thrown in it. -/
theorem stepThrowing_idle (t : Throws) (r : Run) (s : Step) : (r.stepThrowing t s).Idle := by
  cases s <;> exact settle_idle _

/-- And when a session has been started. -/
theorem begin_idle (lease : Int64) (scheduler : Scheduler) (timeout : Option Duration)
    (handler : Option Behaviour) (openFailure : Option Status) :
    (begin lease scheduler timeout handler openFailure).Idle := by
  unfold begin
  cases openFailure with
  | some s => rfl
  | none => exact settle_idle _

/-! ### What a handler does -/

/-- The run apart from its handler: what it does, what it was told and what is logged. -/
def apart (r : Run) : Run := { r with handler := none, callbacks := [], log := [] }

/-- To tell a handler that does not close is nothing but a call and a log entry. -/
theorem tell_apart {r : Run} (h : r.handler ≠ some .close) (listener : Listener)
    (c : Callback KeepAliveResponse) :
    (r.tell listener c).apart = r.apart := by
  unfold tell
  cases hb : r.handler with
  | none => rfl
  | some b =>
    cases b with
    | close => exact absurd hb h
    | _ => rfl

/-- The task ends with an error in the same way, whoever hears of it. -/
theorem fail_apart {r : Run} (h : r.handler ≠ some .close) (e : ClientError) :
    (r.fail e).apart = (r.apart.fail e).apart := by
  let logged : Run :=
    { r with log := r.log ++ [LogEntry.keepAliveFailed r.session.lease e] }.decide (.error e)
  have htold := tell_apart (r := logged) h .keepAliveError (.error e)
  exact congrArg (fun t : Run => { t with receiving := false }) htold

/-- **What arrives does to the rest of a run what it would do without the handler.** -/
theorem receive_apart {r : Run} (h : r.handler ≠ some .close) (a : Arrival KeepAliveResponse) :
    (r.receive a).apart = (r.apart.receive a).apart := by
  unfold receive
  rw [apply_ite apart, apply_ite apart]
  cases a with
  | response response =>
    -- The session is handled first, so the answer of the scheduler is the same in both.
    have hhandle : (r.handle response).apart = (r.apart.handle response).apart := by
      have hsession : r.apart.session = r.session := rfl
      unfold handle
      dsimp only [decide_session]
      rw [hsession]
      split
      · exact tell_apart (r := { r.decide (.ok response.ttl) with session := _ }) h _ _
      · exact fail_apart (r := { r.decide (.ok response.ttl) with session := _ }) h _
    dsimp only
    rw [hhandle]
    rfl
  | failure s =>
    dsimp only
    rw [fail_apart h]
    rfl
  | finish => rfl

/-- What happens by itself does not depend on the handler. -/
theorem settle_apart (r : Run) : r.settle.apart = r.apart.settle := by
  unfold settle decideStart apart
  dsimp only
  split
  · split
    · split <;> rfl
    · rfl
    · split
      · split <;> rfl
      · rfl
  · rfl

/-- A step that brings nothing does not ask what the handler does. -/
theorem act_apart (r : Run) {s : Step} (harrive : ∀ items, s ≠ .arrive items)
    (hset : s.isOutward = true) :
    (r.act s).apart = (r.apart.act s).apart ∧ (r.act s).callbacks = r.callbacks ∧
      (r.act s).handler = r.handler := by
  cases s with
  | arrive items => exact absurd rfl (harrive items)
  | setHandler b => exact absurd hset Bool.false_ne_true
  | fire i =>
    simp only [act]
    refine ⟨?_, by split <;> rfl, by split <;> rfl⟩
    rw [apply_ite apart, apply_ite apart]
    rfl
  | close =>
    simp only [act]
    refine ⟨?_, by split <;> rfl, by split <;> rfl⟩
    rw [apply_ite apart, apply_ite apart]
    rfl
  | drop =>
    simp only [act]
    refine ⟨?_, by split <;> rfl, by split <;> rfl⟩
    rw [apply_ite apart, apply_ite apart]
    rfl
  | _ => exact ⟨rfl, rfl, rfl⟩

/-- A run with a handler or without, and the same with one that only records: they are equal apart
from their handlers, and the handlers were told the same. -/
structure Alike (handled : Bool) (r q : Run) : Prop where
  tame : r.handler ≠ some .close
  handler_isSome : r.handler.isSome = handled
  recording : q.handler = some .record
  apart_eq : r.apart = q.apart
  callbacks_eq : r.callbacks = if handled then q.callbacks else []

namespace Alike

variable {handled : Bool} {r q : Run}

/-- What is not forgotten is equal, the session first of all. -/
theorem session_eq (h : r.Alike handled q) : r.session = q.session := by
  show r.apart.session = q.apart.session
  rw [h.apart_eq]

/-- Runs that are alike have the same receiving task. -/
theorem receiving_eq (h : r.Alike handled q) : r.receiving = q.receiving := by
  show r.apart.receiving = q.apart.receiving
  rw [h.apart_eq]

/-- Two runs that are alike take what arrives alike. The lapses are those of the first handler
alone. -/
theorem receive (h : r.Alike handled q) (l : Lapses) (a : Arrival KeepAliveResponse) :
    (r.receiveLapsing l a).Alike handled (q.receive a) := by
  let lapsed : Run := { r with handler := r.handler.map (l.behaviour r.callbacks.length) }
  have hlapsed : lapsed.handler ≠ some .close := by
    intro hclose
    obtain ⟨b, hb, hlapse⟩ := Option.map_eq_some_iff.1 hclose
    exact l.behaviour_ne_close (fun hbclose => h.tame (hbclose ▸ hb)) _ hlapse
  have hq : q.handler ≠ some .close := by
    rw [h.recording]
    exact nofun
  have hapart : lapsed.apart = q.apart := h.apart_eq
  have hsession : lapsed.session = q.session := h.session_eq
  have hreceiving : lapsed.receiving = q.receiving := h.receiving_eq
  refine ⟨h.tame, h.handler_isSome, (q.receive_handler a).trans h.recording, ?_, ?_⟩
  · calc (r.receiveLapsing l a).apart = (lapsed.receive a).apart := rfl
      _ = (lapsed.apart.receive a).apart := receive_apart hlapsed a
      _ = (q.apart.receive a).apart := by rw [hapart]
      _ = (q.receive a).apart := (receive_apart hq a).symm
  · show (lapsed.receive a).callbacks = _
    cases hr : q.receiving with
    | false =>
      rw [receive_of_stopped (hreceiving.trans hr), receive_of_stopped hr]
      exact h.callbacks_eq
    | true =>
      -- What is told is read off the session, which is the same.
      rw [receive_callbacks (hreceiving.trans hr), receive_callbacks hr, meeting, meeting, hsession,
        h.recording]
      show r.callbacks ++ (if (r.handler.map _).isSome then _ else _) = _
      rw [Option.isSome_map, h.handler_isSome, h.callbacks_eq]
      cases handled <;> rfl

/-- They settle alike. -/
theorem settle (h : r.Alike handled q) : r.settle.Alike handled q.settle where
  tame := by rw [settle_handler]; exact h.tame
  handler_isSome := by rw [settle_handler, h.handler_isSome]
  recording := q.settle_handler.trans h.recording
  apart_eq := by rw [settle_apart, settle_apart, h.apart_eq]
  callbacks_eq := by rw [settle_callbacks, settle_callbacks, h.callbacks_eq]

/-- They take a step alike if it does not set the handler. -/
theorem step (h : r.Alike handled q) (l : Lapses) {s : Step} (hs : s.isOutward = true) :
    (r.stepLapsing l s).Alike handled (q.step s) := by
  have hquiet (harrive : ∀ items, s ≠ .arrive items) : (r.step s).Alike handled (q.step s) := by
    obtain ⟨hr, hrcalls, hrhandler⟩ := r.act_apart harrive hs
    obtain ⟨hq, hqcalls, hqhandler⟩ := q.act_apart harrive hs
    have hact : (r.act s).Alike handled (q.act s) := by
      refine ⟨by rw [hrhandler]; exact h.tame, by rw [hrhandler, h.handler_isSome],
        hqhandler.trans h.recording, ?_, ?_⟩
      · rw [hr, hq, h.apart_eq]
      · rw [hrcalls, hqcalls, h.callbacks_eq]
    exact hact.settle
  cases s with
  | arrive items =>
    have hall : (items.foldl (receiveLapsing l) r).Alike handled (items.foldl Run.receive q) :=
      List.foldl_rel h fun a _ r q hrq => hrq.receive l a
    exact hall.settle
  | _ => exact hquiet nofun

/-- To set the handler is no step for the rest of the run. -/
theorem setHandler (h : r.Alike handled q) (hidle : r.Idle) {b : Behaviour} (hb : b ≠ .close) :
    (r.step (.setHandler b)).Alike handled q := by
  have hset : (r.act (.setHandler b)).apart = r.apart := rfl
  refine ⟨fun hclose => ?_, ?_, h.recording, ?_, ?_⟩
  · rw [Run.step, settle_handler] at hclose
    obtain ⟨-, -, hbclose⟩ := Option.map_eq_some_iff.1 hclose
    exact hb hbclose
  · rw [Run.step, settle_handler]
    exact Option.isSome_map.trans h.handler_isSome
  · rw [Run.step, settle_apart, hset, ← settle_apart, hidle]
    exact h.apart_eq
  · rw [Run.step, settle_callbacks]
    exact h.callbacks_eq

/-- **Every run is, apart from its handler, the run of a handler that only records.** -/
theorem steps (h : r.Alike handled q) (hidle : r.Idle) (l : Lapses) {script : List Step}
    (htame : .setHandler .close ∉ script) :
    (r.stepsLapsing l script).Alike handled (q.steps (outward script)) := by
  let R (r q : Run) : Prop := r.Alike handled q ∧ r.Idle
  have hkeep (s) (_ : s ∈ script) (hs : s.isOutward = true) (r q) (hrq : R r q) :
      R (r.stepLapsing l s) (q.step s) :=
    ⟨hrq.1.step l hs, stepLapsing_idle l r s⟩
  have hskip (s) (hmem : s ∈ script) (hs : s.isOutward = false) (r q) (hrq : R r q) :
      R (r.stepLapsing l s) q := by
    cases s with
    | setHandler b =>
      have hb : b ≠ .close := fun hclose => htame (hclose ▸ hmem)
      exact ⟨hrq.1.setHandler hrq.2 hb, settle_idle _⟩
    | _ => exact absurd hs.symm Bool.false_ne_true
  exact (foldl_rel_filter Step.isOutward hkeep hskip ⟨h, hidle⟩).1

/-- Two runs are alike from the start on. -/
theorem fresh (lease : Int64) (scheduler : Scheduler) (timeout : Option Duration)
    {handler : Option Behaviour} (htame : handler ≠ some .close)
    (openFailure : Option Status) :
    (begin lease scheduler timeout handler openFailure).Alike handler.isSome
      (begin lease scheduler timeout (some .record) openFailure) := by
  have hstart : Alike handler.isSome
      { session := Session.beat { lease, scheduler }, timeout, handler }
      { session := Session.beat { lease, scheduler }, timeout, handler := some .record } :=
    ⟨htame, rfl, rfl, rfl, (ite_self []).symm⟩
  unfold begin
  cases openFailure with
  | some s => exact ⟨htame, rfl, rfl, rfl, (ite_self []).symm⟩
  | none => exact hstart.settle

end Alike

/-- **What a handler does disturbs nothing.** Two runs of one script, but for what the handlers do,
agree in all that is not about the handlers, and two handlers were told the same. -/
theorem stepsLapsing_congr (lease : Int64) (scheduler : Scheduler) (timeout : Option Duration)
    {handler₁ handler₂ : Option Behaviour} (openFailure : Option Status) (l₁ l₂ : Lapses)
    {script₁ script₂ : List Step} (hhandler₁ : handler₁ ≠ some .close)
    (hhandler₂ : handler₂ ≠ some .close) (hscript₁ : .setHandler .close ∉ script₁)
    (hscript₂ : .setHandler .close ∉ script₂) (hsame : outward script₁ = outward script₂) :
    let r₁ := (begin lease scheduler timeout handler₁ openFailure).stepsLapsing l₁ script₁
    let r₂ := (begin lease scheduler timeout handler₂ openFailure).stepsLapsing l₂ script₂
    r₁.apart = r₂.apart ∧ (handler₁.isSome = handler₂.isSome → r₁.callbacks = r₂.callbacks) := by
  intro r₁ r₂
  have halike {handler : Option Behaviour} (hhandler : handler ≠ some .close) (l : Lapses)
      {script : List Step} (hscript : .setHandler .close ∉ script) :=
    (Alike.fresh lease scheduler timeout hhandler openFailure).steps
      (begin_idle lease scheduler timeout handler openFailure) l hscript
  have h₁ := halike hhandler₁ l₁ hscript₁
  have h₂ := halike hhandler₂ l₂ hscript₂
  rw [← hsame] at h₂
  exact ⟨h₁.apart_eq.trans h₂.apart_eq.symm, fun hsome => by
    rw [h₁.callbacks_eq, h₂.callbacks_eq, hsome]⟩

end Run

/-! ### A server that reads no more -/

namespace Session

/-- The session as it is for a server that has read `requests` and reads no more. -/
def deafened (requests : List Request) (s : Session) : Session :=
  { s with listening := false, requests }

variable (requests : List Request) (s : Session)

/-- The sending side of the client ends as it would. -/
theorem close_deafened : s.close.deafened requests = (s.deafened requests).close := by
  unfold close
  rw [apply_ite (deafened requests)]
  rfl

/-- Nothing reaches such a server. -/
theorem beat_deafened : s.beat.deafened requests = (s.deafened requests).beat := by
  have hdeaf : (s.deafened requests).beat = s.deafened requests := by
    simp [beat, deafened]
  rw [hdeaf]
  unfold beat
  split <;> rfl

/-- The scheduler is asked by the client, and such a server has no part in it. -/
theorem rearm_deafened (ttl : Int64) :
    (s.deafened requests).rearm ttl =
      ((s.rearm ttl).1, (s.rearm ttl).2.deafened requests) := by
  unfold rearm
  show (if s.scheduler.accepts then _ else if s.closed then _ else _) = _
  split
  · rfl
  · split <;> rfl

end Session

namespace Run

/-- The run as it is for a server that has read `requests` and reads no more. -/
def deafened (requests : List Request) (r : Run) : Run :=
  { r with session := r.session.deafened requests }

variable (requests : List Request) (r : Run)

/-- What a handler does, a close included, comes through the map. -/
theorem tell_deafened (listener : Listener) (c : Callback KeepAliveResponse) :
    (r.tell listener c).deafened requests = (r.deafened requests).tell listener c := by
  have hhandler : (r.deafened requests).handler = r.handler := rfl
  unfold tell
  rw [hhandler]
  split
  · rfl
  · simp only [deafened, ← Session.close_deafened]
    split
    · rw [apply_ite (Session.deafened requests)]
      rfl
    · rfl

/-- So does the end of the task, and a response. -/
theorem fail_deafened (e : ClientError) :
    (r.fail e).deafened requests = (r.deafened requests).fail e :=
  congrArg (fun t : Run => { t with receiving := false })
    (tell_deafened requests _ .keepAliveError (.error e))

/-- A response is handled the same whether the server reads or not. -/
theorem handle_deafened (response : KeepAliveResponse) :
    (r.handle response).deafened requests = (r.deafened requests).handle response := by
  have hrearm := Session.rearm_deafened requests r.session response.ttl
  have hsession : (r.deafened requests).session = r.session.deafened requests := rfl
  unfold handle
  dsimp only [decide_session]
  rw [hsession, hrearm]
  split
  · next s hs =>
    rw [hs]
    exact tell_deafened requests _ _ _
  · next e s hs =>
    rw [hs]
    exact fail_deafened requests _ _

/-- What arrives comes from the server and is not for it. -/
theorem receiveLapsing_deafened (l : Lapses) (a : Arrival KeepAliveResponse) :
    (r.receiveLapsing l a).deafened requests = (r.deafened requests).receiveLapsing l a := by
  have hreceive (r : Run) : (r.receive a).deafened requests = (r.deafened requests).receive a := by
    unfold receive
    rw [apply_ite (deafened requests)]
    cases a with
    | response response =>
      dsimp only
      rw [handle_deafened]
      rfl
    | failure s =>
      dsimp only
      rw [fail_deafened]
      rfl
    | finish => rfl
  exact congrArg (fun t : Run => { t with handler := r.handler }) (hreceive _)

/-- Nor does such a server have a part in how the task ends. -/
theorem receiveThrowing_deafened (t : Throws) (a : Arrival KeepAliveResponse) :
    (r.receiveThrowing t a).deafened requests = (r.deafened requests).receiveThrowing t a := by
  unfold receiveThrowing
  dsimp only
  rw [apply_ite (deafened requests), ← receiveLapsing_deafened]
  rfl

/-- What happens by itself may close the session, which such a server does not see. -/
theorem settle_deafened : r.settle.deafened requests = (r.deafened requests).settle := by
  unfold settle decideStart deafened giveUp
  simp only [← Session.close_deafened]
  split
  · split
    · split <;> rfl
    · rfl
    · split
      · split <;> rfl
      · rfl
  · rfl

/-- Every step does the same to the run as it is for such a server. -/
theorem stepThrowing_deafened (t : Throws) (s : Step) :
    (r.deafened requests).stepThrowing t s = (r.stepThrowing t s).deafened requests := by
  have hact (h : (r.act s).deafened requests = (r.deafened requests).act s) :
      (r.deafened requests).step s = (r.step s).deafened requests := by
    rw [step, step, settle_deafened, h]
  cases s with
  | arrive items =>
    rw [stepThrowing, stepThrowing, settle_deafened]
    exact congrArg settle (List.foldl_hom (deafened requests) fun r a =>
      (r.receiveThrowing_deafened requests t a).symm)
  | fire i =>
    refine hact ?_
    simp only [act]
    rw [apply_ite (deafened requests)]
    simp only [deafened]
    rw [apply_ite (Session.deafened requests), Session.beat_deafened]
    rfl
  | close =>
    refine hact ?_
    simp only [act]
    rw [apply_ite (deafened requests)]
    simp only [deafened, Session.close_deafened]
    rfl
  | drop =>
    refine hact ?_
    simp only [act]
    rw [apply_ite (deafened requests)]
    rfl
  | _ => exact hact rfl

/-- **A server that stops reading changes only what it reads.** -/
theorem stepsThrowing_hangUp {r : Run} (h : r.Idle) (t : Throws) (before after : List Step) :
    r.stepsThrowing t (before ++ .hangUp :: after) =
      (r.stepsThrowing t (before ++ after)).deafened
        (r.stepsThrowing t before).session.requests := by
  have hidle : (r.stepsThrowing t before).Idle := by
    rcases List.eq_nil_or_concat before with rfl | ⟨before, s, rfl⟩
    · exact h
    · rw [stepsThrowing, List.concat_eq_append, List.foldl_append]
      exact stepThrowing_idle t _ s
  refine foldl_insert (fun r s => r.stepThrowing_deafened _ t s) ?_ after
  show ((r.stepsThrowing t before).deafened _).settle = _
  rw [← settle_deafened, hidle]
  rfl

end Run
end KeepAlive
end EtcdClient
