import EtcdClient.Proofs.Session.Lapses
import EtcdClient.Proofs.Watch.Delivery

/-
# Watch sessions are not disturbed by handlers and deaf servers

As for keep-alive sessions there are two maps of runs that every step respects. A watch always has
a handler, so `Run.apart` forgets what the handler does and keeps what it was told. A server that
stops reading misses the cancel request (`Session.halfClose_deafened`).

Source: `SPEC_FULL.md` §7 and §10.4: handlers are called under `isolate`.
-/

namespace EtcdClient
namespace Watch

/-- A step that is not about what the handler does. -/
def Step.isOutward : Step → Bool
  | .setHandler _ => false
  | _ => true

/-- A script without what it says about the handler. -/
def outward (script : List Step) : List Step := script.filter Step.isOutward

namespace Run

/-- The receiving task takes what arrived, with a handler that has lapses. It is called at most
once, after all the calls so far. -/
def receiveLapsing (l : Lapses) (r : Run) (a : Arrival WatchResponse) : Run :=
  { { r with handler := l.behaviour r.callbacks.length r.handler }.receive a with
    handler := r.handler }

/-- One step and what follows from it, with a handler that has lapses. -/
def stepLapsing (l : Lapses) (r : Run) : Step → Run
  | .arrive items => (items.foldl (receiveLapsing l) r).settle
  | s => r.step s

/-- A run after a script, with a handler that has lapses. -/
def stepsLapsing (l : Lapses) (r : Run) (script : List Step) : Run :=
  script.foldl (stepLapsing l) r

/-- Only the first close counts. -/
theorem close_of_closed {r : Run} (h : r.session.closed = true) : r.close = r := if_pos h

/-- What the handler is set to is for a step to say, here and in the next lemmas. -/
@[simp] theorem close_handler (r : Run) : r.close.handler = r.handler := by
  unfold close
  split <;> rfl

/-- Being told something does not change which handler is there. -/
@[simp] theorem tell_handler (r : Run) (listener : Listener) (c : Callback WatchResponse) :
    (r.tell listener c).handler = r.handler := by
  obtain ⟨log, h | h⟩ := r.tell_cases listener c
  · rw [h]
  · rw [h, close_handler]

/-- What arrives does not set the handler, which is why lapses can be put in around it. -/
theorem receive_handler (r : Run) (a : Arrival WatchResponse) :
    (r.receive a).handler = r.handler := by
  unfold receive
  split
  · cases a with
    | response response =>
      dsimp only
      split <;> exact tell_handler _ _ _
    | failure s => exact tell_handler _ _ _
    | finish => exact tell_handler _ _ _
  · rfl

/-- Settling leaves the handler in its place. -/
@[simp] theorem settle_handler (r : Run) : r.settle.handler = r.handler := by
  show r.decideStart.handler = r.handler
  rcases r.decideStart_cases with h | ⟨id, h⟩ | ⟨e, h⟩ <;> rw [h]
  rfl

/-- Without lapses these are the runs as they are. -/
theorem stepsLapsing_never (r : Run) (script : List Step) :
    r.stepsLapsing .never script = r.steps script := by
  have hreceive : receiveLapsing .never = receive := by
    funext r a
    show { r.receive a with handler := r.handler } = r.receive a
    rw [← r.receive_handler a]
  have hstep : stepLapsing .never = step := by
    funext r s
    cases s with
    | arrive items => rw [stepLapsing, hreceive]; rfl
    | _ => rfl
  rw [stepsLapsing, hstep]
  rfl

/-! ### Values that panic when they are dropped -/

/-- What a start hears if the task ends before it has noted an outcome. -/
def taskEnded : ClientError := .streamClosed "receive task ended before watch creation"

/-- The receiving task takes what arrived, with a handler that throws values. If the handler is
called and throws one that panics when it is dropped, the task ends with that, and a start that
waits for an outcome hears of it. -/
def receiveThrowing (t : Throws) (r : Run) (a : Arrival WatchResponse) : Run :=
  let told := r.receiveLapsing t.lapses a
  if r.callbacks.length < told.callbacks.length ∧ t.breaksOut r.callbacks.length then
    { told.decide (.error taskEnded) with receiving := false }
  else told

/-- One step and what follows from it, with a handler that throws values. -/
def stepThrowing (t : Throws) (r : Run) : Step → Run
  | .arrive items => (items.foldl (receiveThrowing t) r).settle
  | s => r.step s

/-- A run after a script, with a handler that throws values. -/
def stepsThrowing (t : Throws) (r : Run) (script : List Step) : Run :=
  script.foldl (stepThrowing t) r

/-- Of values that are dropped quietly no more is seen than of the panics that are caught. -/
theorem stepsThrowing_of_quiet {t : Throws} (ht : t.Quiet) (r : Run) (script : List Step) :
    r.stepsThrowing t script = r.stepsLapsing t.lapses script := by
  have hreceive : receiveThrowing t = receiveLapsing t.lapses := by
    funext r a
    exact if_neg fun h => absurd h.2 (by simp [ht r.callbacks.length])
  have hstep : stepThrowing t = stepLapsing t.lapses := by
    funext r s
    cases s with
    | arrive items => rw [stepThrowing, hreceive]; rfl
    | _ => rfl
  rw [stepsThrowing, hstep]
  rfl

/-- If nothing is thrown these are the runs as they are. -/
theorem stepsThrowing_never (r : Run) (script : List Step) :
    r.stepsThrowing .never script = r.steps script :=
  (stepsThrowing_of_quiet Throws.quiet_never r script).trans (r.stepsLapsing_never script)

/-- A task that has ended makes no call, so nothing is thrown. -/
theorem receiveThrowing_of_stopped {r : Run} (h : r.receiving = false) (t : Throws)
    (a : Arrival WatchResponse) : r.receiveThrowing t a = r := by
  let lapsed : Run := { r with handler := t.lapses.behaviour r.callbacks.length r.handler }
  have hlapsing : r.receiveLapsing t.lapses a = r :=
    congrArg (fun q : Run => { q with handler := r.handler }) (receive_of_stopped (r := lapsed) h a)
  rw [receiveThrowing, hlapsing]
  exact if_neg fun hbreaks => Nat.lt_irrefl _ hbreaks.1

/-- A run whose task has ended, behind the same run with its task going on. -/
structure Behind (r p : Run) : Prop where
  stopped : r.receiving = false
  told : r.callbacks <+: p.callbacks

namespace Behind

variable {r p : Run}

/-- What arrives is lost on a task that has ended, and is told by the one that goes on. -/
theorem receive (h : r.Behind p) (t : Throws) (a : Arrival WatchResponse) :
    (r.receiveThrowing t a).Behind (p.receiveLapsing t.lapses a) := by
  let lapsed : Run := { p with handler := t.lapses.behaviour p.callbacks.length p.handler }
  have hgrow : lapsed.callbacks <+: (lapsed.receive a).callbacks := lapsed.receive_callbacks_grow a
  rw [receiveThrowing_of_stopped h.stopped]
  exact ⟨h.stopped, h.told.trans hgrow⟩

/-- A step in which nothing is told leaves the two as they are. -/
theorem step (h : r.Behind p) (s : Step) : (r.step s).Behind (p.step s) where
  stopped := step_of_stopped h.stopped s
  told := by
    have hsame : (r.step s).callbacks = r.callbacks := steps_callbacks_of_stopped h.stopped [s]
    rw [hsame]
    exact h.told.trans (p.step_callbacks_grow s)

/-- Settling keeps a run behind, being a step in which nothing arrives. -/
theorem settle (h : r.Behind p) : r.settle.Behind p.settle := h.step (.arrive [])

/-- So no step lets a task that has ended catch up. -/
theorem stepThrowing (h : r.Behind p) (t : Throws) (s : Step) :
    (r.stepThrowing t s).Behind (p.stepLapsing t.lapses s) := by
  cases s with
  | arrive items => exact (List.foldl_rel h fun a _ r p hrp => hrp.receive t a).settle
  | _ => exact h.step _

end Behind

/-- **A value that panics when it is dropped takes away from the end.** Whatever a handler throws,
it is told a beginning of what it would be told if all of it were dropped quietly. -/
theorem stepsThrowing_callbacks_prefix (t : Throws) (r : Run) (script : List Step) :
    (r.stepsThrowing t script).callbacks <+: (r.stepsLapsing t.lapses script).callbacks := by
  -- The two runs are one until a value breaks out, and from then on the first has no task.
  have hreceive (r : Run) (a : Arrival WatchResponse) :
      r.receiveThrowing t a = r.receiveLapsing t.lapses a ∨
        (r.receiveThrowing t a).Behind (r.receiveLapsing t.lapses a) := by
    unfold receiveThrowing
    dsimp only
    split
    · exact .inr ⟨rfl, List.prefix_refl _⟩
    · exact .inl rfl
  have hstep (r : Run) (s : Step) : r.stepThrowing t s = r.stepLapsing t.lapses s ∨
      (r.stepThrowing t s).Behind (r.stepLapsing t.lapses s) := by
    cases s with
    | arrive items =>
      rcases foldl_eq_or_rel hreceive (fun r p a h => h.receive t a) r items with heq | hbehind
      · exact .inl (congrArg settle heq)
      · exact .inr hbehind.settle
    | _ => exact .inl rfl
  rcases foldl_eq_or_rel hstep (fun r p s h => h.stepThrowing t s) r script with heq | hbehind
  · rw [stepsThrowing, heq]
    exact List.prefix_refl _
  · exact hbehind.told

/-! ### Settling once is enough -/

/-- Everything has happened that happens by itself. -/
def Idle (r : Run) : Prop := r.settle = r

/-- A start that can be decided is decided at once. -/
theorem decideStart_decideStart (r : Run) : r.decideStart.decideStart = r.decideStart := by
  rcases r.decideStart_cases with h | ⟨id, h⟩ | ⟨e, h⟩
  · rw [h, h]
  · rw [h]
    rfl
  · rw [h]
    rfl

/-- Whether the start is as decided as it can be has nothing to do with the receiving task. -/
theorem decideStart_receiving_eq {r : Run} (h : r.decideStart = r) (b : Bool) :
    { r with receiving := b }.decideStart = { r with receiving := b } := by
  have hstart : r.decideStart.start = r.start := congrArg start h
  revert hstart
  unfold decideStart
  dsimp only
  split
  · next hwaiting =>
    split
    · exact fun hready => absurd (hready.trans hwaiting) (by simp)
    · exact fun hfailed => absurd (hfailed.trans hwaiting) (by simp [giveUp])
    · split
      · split
        · exact fun hfailed => absurd (hfailed.trans hwaiting) (by simp [giveUp])
        · exact fun _ => rfl
      · exact fun _ => rfl
  · exact fun _ => rfl

/-- What happens by itself has happened when all has settled. -/
theorem settle_idle (r : Run) : r.settle.Idle := by
  have hdecided : r.settle.decideStart = r.settle :=
    decideStart_receiving_eq r.decideStart_decideStart _
  have hreceiving : r.settle.receiving = (r.settle.receiving && !r.settle.graceOver) := by
    show (r.decideStart.receiving && !r.decideStart.graceOver) =
      (r.decideStart.receiving && !r.decideStart.graceOver && !r.decideStart.graceOver)
    rw [Bool.and_assoc, Bool.and_self]
  show { r.settle.decideStart with
    receiving := r.settle.decideStart.receiving && !r.settle.decideStart.graceOver } = _
  rw [hdecided, ← hreceiving]

/-- So it has after every step, whatever the handler does. -/
theorem stepLapsing_idle (l : Lapses) (r : Run) (s : Step) : (r.stepLapsing l s).Idle := by
  cases s <;> exact settle_idle _

/-- After a step there is nothing left that would happen by itself, whatever was thrown in it. -/
theorem stepThrowing_idle (t : Throws) (r : Run) (s : Step) : (r.stepThrowing t s).Idle := by
  cases s <;> exact settle_idle _

/-- And when a session has been started. -/
theorem begin_idle (create : WatchCreateRequest) (timeout : Option Duration)
    (handler : Behaviour) (openFailure : Option Status) :
    (begin create timeout handler openFailure).Idle := by
  unfold begin
  cases openFailure with
  | some s => rfl
  | none => exact settle_idle _

/-! ### What a handler does -/

/-- The run apart from what its handler does and what is logged. -/
def apart (r : Run) : Run := { r with handler := .record, log := [] }

/-- The handler does not close the session, or the session is closed. -/
def Harmless (r : Run) : Prop := r.handler = .close → r.session.closed = true

/-- What the handler does is forgotten, and what it is told is not. It is to be harmless, since a
close changes the session. -/
theorem tell_apart {r : Run} (h : r.Harmless) (listener : Listener) (c : Callback WatchResponse) :
    (r.tell listener c).apart = (r.apart.tell listener c).apart := by
  unfold tell
  cases hb : r.handler with
  | close =>
    let told : Run := { r with
      handler := .close
      callbacks := r.callbacks ++ [c]
      log := r.log ++ LogEntry.ofCall listener .close }
    have hclosed : told.close = told := close_of_closed (h hb)
    show (if r.handedOut then told.close else told).apart = _
    rw [hclosed, ite_self]
    rfl
  | _ => rfl

/-- **What arrives does to the rest of a run what it would do with a handler that records.** -/
theorem receive_apart {r : Run} (h : r.Harmless) (a : Arrival WatchResponse) :
    (r.receive a).apart = (r.apart.receive a).apart := by
  unfold receive
  rw [apply_ite apart, apply_ite apart]
  cases a with
  | response response =>
    -- The outcome is noted before the handler is told, and does not depend on it.
    have htold : (if response.created then r.decide (.ok response.watchId) else r).apart =
        if response.created then r.apart.decide (.ok response.watchId) else r.apart := by
      rw [apply_ite apart]
      rfl
    have hharmless :
        Harmless (if response.created then r.decide (.ok response.watchId) else r) := by
      split <;> exact h
    dsimp only
    rw [tell_apart hharmless, htold]
    rfl
  | failure s =>
    let logged (r : Run) : Run :=
      { r with log := r.log ++ [LogEntry.watchFailed (.grpc s)] }.decide (.error (.grpc s))
    have hr := tell_apart (r := logged r) h .watchError (.error (.grpc s))
    have hq := tell_apart (r := logged r.apart) nofun .watchError (.error (.grpc s))
    exact congrArg (fun t : Run => if r.receiving then { t with receiving := false } else r.apart)
      (hr.trans hq.symm)
  | finish =>
    exact congrArg (fun t : Run => if r.receiving then { t with receiving := false } else r.apart)
      (tell_apart (r := r.decide (.error streamEnded)) h .watchCompletion .completed)

/-- What happens by itself does not depend on the handler. -/
theorem settle_apart (r : Run) : r.settle.apart = r.apart.settle := by
  unfold settle decideStart apart graceOver
  dsimp only
  split
  · split
    · rfl
    · rfl
    · split
      · split <;> rfl
      · rfl
  · rfl

/-- Nor does a close, from wherever it comes. -/
theorem close_apart (r : Run) : r.close.apart = r.apart.close := by
  unfold close
  rw [apply_ite apart]
  rfl

/-- A close from elsewhere does not look at the handler. -/
theorem closeElsewhere_apart (r : Run) : r.closeElsewhere.apart = r.apart.closeElsewhere := by
  unfold closeElsewhere
  rw [apply_ite apart]
  rfl

/-- A step that brings nothing does not ask what the handler does. -/
theorem act_apart (r : Run) {s : Step} (harrive : ∀ items, s ≠ .arrive items)
    (hset : s.isOutward = true) :
    (r.act s).apart = r.apart.act s ∧ (r.act s).handler = r.handler := by
  cases s with
  | arrive items => exact absurd rfl (harrive items)
  | setHandler b => exact absurd hset Bool.false_ne_true
  | close =>
    simp only [act]
    constructor
    · rw [apply_ite apart, close_apart]
      rfl
    · split
      · exact close_handler r
      · rfl
  | closeElsewhere =>
    simp only [act]
    constructor
    · rw [apply_ite apart, closeElsewhere_apart]
      rfl
    · unfold closeElsewhere
      split
      · split <;> rfl
      · rfl
  | drop =>
    simp only [act]
    refine ⟨?_, by split <;> rfl⟩
    rw [apply_ite apart]
    rfl
  | _ => exact ⟨rfl, rfl⟩

/-- A run and the same with a handler that only records. -/
structure Alike (r q : Run) : Prop where
  tame : r.handler ≠ .close
  recording : q.handler = .record
  apart_eq : r.apart = q.apart

namespace Alike

variable {r q : Run}

/-- Two runs that are alike take what arrives alike. The lapses are those of the first handler
alone. -/
theorem receive (h : r.Alike q) (l : Lapses) (a : Arrival WatchResponse) :
    (r.receiveLapsing l a).Alike (q.receive a) := by
  let lapsed : Run := { r with handler := l.behaviour r.callbacks.length r.handler }
  have hapart : lapsed.apart = q.apart := h.apart_eq
  have hlapsed : lapsed.Harmless := fun hclose => absurd hclose (l.behaviour_ne_close h.tame _)
  have hq : q.Harmless := fun hclose => absurd (h.recording.symm.trans hclose) nofun
  refine ⟨h.tame, (q.receive_handler a).trans h.recording, ?_⟩
  calc (r.receiveLapsing l a).apart = (lapsed.receive a).apart := rfl
    _ = (lapsed.apart.receive a).apart := receive_apart hlapsed a
    _ = (q.apart.receive a).apart := by rw [hapart]
    _ = (q.receive a).apart := (receive_apart hq a).symm

/-- They settle alike. -/
theorem settle (h : r.Alike q) : r.settle.Alike q.settle where
  tame := by rw [settle_handler]; exact h.tame
  recording := q.settle_handler.trans h.recording
  apart_eq := by rw [settle_apart, settle_apart, h.apart_eq]

/-- They take a step alike if it does not set the handler. -/
theorem step (h : r.Alike q) (l : Lapses) {s : Step} (hs : s.isOutward = true) :
    (r.stepLapsing l s).Alike (q.step s) := by
  have hquiet (harrive : ∀ items, s ≠ .arrive items) : (r.step s).Alike (q.step s) := by
    obtain ⟨hr, hrhandler⟩ := r.act_apart harrive hs
    obtain ⟨hq, hqhandler⟩ := q.act_apart harrive hs
    have hact : (r.act s).Alike (q.act s) :=
      ⟨by rw [hrhandler]; exact h.tame, hqhandler.trans h.recording, by rw [hr, hq, h.apart_eq]⟩
    exact hact.settle
  cases s with
  | arrive items =>
    have hall : (items.foldl (receiveLapsing l) r).Alike (items.foldl Run.receive q) :=
      List.foldl_rel h fun a _ r q hrq => hrq.receive l a
    exact hall.settle
  | _ => exact hquiet nofun

/-- To set the handler is no step for the rest of the run. -/
theorem setHandler (h : r.Alike q) (hidle : r.Idle) {b : Behaviour} (hb : b ≠ .close) :
    (r.step (.setHandler b)).Alike q := by
  have hset : (r.act (.setHandler b)).apart = r.apart := rfl
  refine ⟨by rw [Run.step, settle_handler]; exact hb, h.recording, ?_⟩
  rw [Run.step, settle_apart, hset, ← settle_apart, hidle]
  exact h.apart_eq

/-- **Every run is, apart from its handler, the run of a handler that only records.** -/
theorem steps (h : r.Alike q) (hidle : r.Idle) (l : Lapses) {script : List Step}
    (htame : .setHandler .close ∉ script) :
    (r.stepsLapsing l script).Alike (q.steps (outward script)) := by
  let R (r q : Run) : Prop := r.Alike q ∧ r.Idle
  have hkeep (s) (_ : s ∈ script) (hs : s.isOutward = true) (r q) (hrq : R r q) :
      R (r.stepLapsing l s) (q.step s) :=
    ⟨hrq.1.step l hs, stepLapsing_idle l r s⟩
  have hskip (s) (hmem : s ∈ script) (hs : s.isOutward = false) (r q) (hrq : R r q) :
      R (r.stepLapsing l s) q := by
    cases s with
    | setHandler b =>
      have hb : b ≠ .close := fun hclose => htame (hclose ▸ hmem)
      exact ⟨hrq.1.setHandler hrq.2 hb, settle_idle _⟩
    | _ => exact absurd hs.symm Bool.false_ne_true
  exact (foldl_rel_filter Step.isOutward hkeep hskip ⟨h, hidle⟩).1

/-- Two runs are alike from the start on. -/
theorem fresh (create : WatchCreateRequest) (timeout : Option Duration)
    {handler : Behaviour} (htame : handler ≠ .close) (openFailure : Option Status) :
    (begin create timeout handler openFailure).Alike
      (begin create timeout .record openFailure) := by
  have hstart : Alike { session := Session.send {} (.watchCreate create), timeout, handler }
      { session := Session.send {} (.watchCreate create), timeout, handler := .record } :=
    ⟨htame, rfl, rfl⟩
  unfold begin
  cases openFailure with
  | some s => exact ⟨htame, rfl, rfl⟩
  | none => exact hstart.settle

end Alike

/-- **What a handler does disturbs nothing.** Two runs of one script, but for what the handlers do,
agree in all that is not about the handlers and in what these were told. -/
theorem stepsLapsing_congr (create : WatchCreateRequest) (timeout : Option Duration)
    {handler₁ handler₂ : Behaviour} (openFailure : Option Status) (l₁ l₂ : Lapses)
    {script₁ script₂ : List Step} (hhandler₁ : handler₁ ≠ .close) (hhandler₂ : handler₂ ≠ .close)
    (hscript₁ : .setHandler .close ∉ script₁) (hscript₂ : .setHandler .close ∉ script₂)
    (hsame : outward script₁ = outward script₂) :
    ((begin create timeout handler₁ openFailure).stepsLapsing l₁ script₁).apart =
      ((begin create timeout handler₂ openFailure).stepsLapsing l₂ script₂).apart := by
  have halike {handler : Behaviour} (hhandler : handler ≠ .close) (l : Lapses)
      {script : List Step} (hscript : .setHandler .close ∉ script) :=
    (Alike.fresh create timeout hhandler openFailure).steps
      (begin_idle create timeout handler openFailure) l hscript
  have h₁ := halike hhandler₁ l₁ hscript₁
  have h₂ := halike hhandler₂ l₂ hscript₂
  rw [← hsame] at h₂
  exact h₁.apart_eq.trans h₂.apart_eq.symm

end Run

/-! ### A server that reads no more -/

namespace Session

/-- The session as it is for a server that has read `requests` and reads no more. -/
def deafened (requests : List Request) (s : Session) : Session :=
  { s with listening := false, requests }

variable (requests : List Request) (s : Session)

/-- Nothing reaches such a server. -/
theorem send_deafened (request : Request) :
    (s.send request).deafened requests = (s.deafened requests).send request := by
  have hdeaf : (s.deafened requests).send request = s.deafened requests := by
    simp [send, deafened]
  rw [hdeaf]
  unfold send
  split <;> rfl

/-- The cancel request is lost on such a server, and the sending side ends as it would. -/
theorem halfClose_deafened : s.halfClose.deafened requests = (s.deafened requests).halfClose := by
  have hid : (s.deafened requests).watchId = s.watchId := rfl
  have hcancel : s.sendCancel.deafened requests = (s.deafened requests).sendCancel := by
    unfold sendCancel
    rw [hid]
    split
    · exact send_deafened requests s _
    · rfl
  unfold halfClose
  rw [apply_ite (deafened requests), ← hcancel]
  rfl

end Session

namespace Run

/-- The run as it is for a server that has read `requests` and reads no more. -/
def deafened (requests : List Request) (r : Run) : Run :=
  { r with session := r.session.deafened requests }

variable (requests : List Request) (r : Run)

/-- A close of either kind, an abort and the handler come through the map, because none of them
looks at what was read. -/
theorem close_deafened : r.close.deafened requests = (r.deafened requests).close := by
  unfold close
  rw [apply_ite (deafened requests)]
  simp only [deafened, Session.halfClose_deafened]
  rfl

/-- A close from elsewhere differs in its request alone, which a deaf server does not read. -/
theorem closeElsewhere_deafened :
    r.closeElsewhere.deafened requests = (r.deafened requests).closeElsewhere := by
  unfold closeElsewhere
  rw [apply_ite (deafened requests)]
  simp only [deafened, Session.halfClose_deafened]
  rfl

/-- An end of the task is the same for a deaf server. -/
theorem abort_deafened : r.abort.deafened requests = (r.deafened requests).abort := by
  simp only [abort, deafened, Session.halfClose_deafened]

/-- What the handler is told does not depend on whether the server reads. -/
theorem tell_deafened (listener : Listener) (c : Callback WatchResponse) :
    (r.tell listener c).deafened requests = (r.deafened requests).tell listener c := by
  have hhandler : (r.deafened requests).handler = r.handler := rfl
  unfold tell
  rw [hhandler]
  dsimp only
  split
  · rw [apply_ite (deafened requests), close_deafened]
    rfl
  · rfl

/-- What arrives comes from the server and is not for it. -/
theorem receiveLapsing_deafened (l : Lapses) (a : Arrival WatchResponse) :
    (r.receiveLapsing l a).deafened requests = (r.deafened requests).receiveLapsing l a := by
  have hstop (t : Run) : { t with receiving := false }.deafened requests =
      { t.deafened requests with receiving := false } := rfl
  have hreceive (r : Run) : (r.receive a).deafened requests = (r.deafened requests).receive a := by
    unfold receive
    rw [apply_ite (deafened requests)]
    cases a with
    | response response =>
      simp only [tell_deafened]
      rw [apply_ite (deafened requests)]
      rfl
    | failure s =>
      simp only [hstop, tell_deafened]
      rfl
    | finish =>
      simp only [hstop, tell_deafened]
      rfl
  exact congrArg (fun t : Run => { t with handler := r.handler }) (hreceive _)

/-- Nor does such a server have a part in how the task ends. -/
theorem receiveThrowing_deafened (t : Throws) (a : Arrival WatchResponse) :
    (r.receiveThrowing t a).deafened requests = (r.deafened requests).receiveThrowing t a := by
  unfold receiveThrowing
  dsimp only
  rw [apply_ite (deafened requests), ← receiveLapsing_deafened]
  rfl

/-- What happens by itself may close the session, which such a server does not see. -/
theorem settle_deafened : r.settle.deafened requests = (r.deafened requests).settle := by
  unfold settle decideStart deafened giveUp abort graceOver
  simp only [← Session.halfClose_deafened]
  split
  · split
    · rfl
    · rfl
    · split
      · split <;> rfl
      · rfl
  · rfl

/-- Every step does the same to the run as it is for such a server. -/
theorem stepThrowing_deafened (t : Throws) (s : Step) :
    (r.deafened requests).stepThrowing t s = (r.stepThrowing t s).deafened requests := by
  -- A step is its act and the settling, and of the settling it is known.
  have hact (h : (r.act s).deafened requests = (r.deafened requests).act s) :
      (r.deafened requests).step s = (r.step s).deafened requests := by
    rw [step, step, settle_deafened, h]
  cases s with
  | arrive items =>
    rw [stepThrowing, stepThrowing, settle_deafened]
    exact congrArg settle (List.foldl_hom (deafened requests) fun r a =>
      (r.receiveThrowing_deafened requests t a).symm)
  | close =>
    refine hact ?_
    simp only [act]
    rw [apply_ite (deafened requests), close_deafened]
    rfl
  | closeElsewhere =>
    refine hact ?_
    simp only [act]
    rw [apply_ite (deafened requests), closeElsewhere_deafened]
    rfl
  | drop =>
    refine hact ?_
    simp only [act, ← abort_deafened]
    rw [apply_ite (deafened requests)]
    rfl
  | _ => exact hact rfl

/-- **A server that stops reading changes only what it reads.** -/
theorem stepsThrowing_hangUp {r : Run} (h : r.Idle) (t : Throws) (before after : List Step) :
    r.stepsThrowing t (before ++ .hangUp :: after) =
      (r.stepsThrowing t (before ++ after)).deafened
        (r.stepsThrowing t before).session.requests := by
  -- Where the server is made deaf nothing is left to happen by itself, so the step does no more.
  have hidle : (r.stepsThrowing t before).Idle := by
    rcases List.eq_nil_or_concat before with rfl | ⟨before, s, rfl⟩
    · exact h
    · rw [stepsThrowing, List.concat_eq_append, List.foldl_append]
      exact stepThrowing_idle t _ s
  refine foldl_insert (fun r s => r.stepThrowing_deafened _ t s) ?_ after
  show ((r.stepsThrowing t before).deafened _).settle = _
  rw [← settle_deafened, hidle]
  rfl

end Run
end Watch
end EtcdClient
