import EtcdClient.Proofs.Trace
import EtcdClient.Proofs.Watch.Run
import Mathlib.Data.List.Induction

/-
# Watch delivery is lossless and in order

A server says what it says, its stream carries that up to the first failure or the end, and the
handler is told a first part of what the stream carries (`delivery_in_order`). How much that is
depends on the receiving task alone, and the task ends in one of two ways (`receiving_iff`):

| the task ends | when |
| --- | --- |
| with its stream | a failure or the end arrived |
| stopped | the start failed, drop, close from elsewhere, the grace is over |

Nothing else is looked at: not whether the session was created, not the flags of a response, and not
whether the session was closed.

Source: `SPEC_FULL.md` §4.2: responses are delivered in the order the server sends them.
-/

namespace EtcdClient
namespace Watch

/-- Everything a server says along a script. -/
def arrivals (script : List Step) : List (Arrival WatchResponse) := script.flatMap Step.items

/-- One more step brings its own items after all the others. -/
theorem arrivals_concat (script : List Step) (s : Step) :
    arrivals (script ++ [s]) = arrivals script ++ s.items := by
  simp [arrivals]

namespace Run

/-- What stops a receiving task in a step, other than its stream. -/
inductive Stops (r : Run) : Step → Prop
  | failedStart {s : Step} (e : ClientError) (failed : (r.step s).start = .failed e) : Stops r s
  | dropped (inHand : r.handedOut = true) : Stops r .drop
  | closedElsewhere (inHand : r.handedOut = true) (opened : r.session.closed = false) :
    Stops r .closeElsewhere
  | graceOver {s : Step} (elapsed : (r.step s).graceOver = true) : Stops r s

/-- The receiving task was stopped: its start failed at once, or a step on the way stopped it. -/
def Stopped (r : Run) (script : List Step) : Prop :=
  (∃ e, r.start = .failed e) ∨
    ∃ before s after, script = before ++ s :: after ∧ (r.steps before).Stops s

/-- A task that was stopped stays stopped, and one more step stops it just by what it does
itself. -/
theorem stopped_concat {r : Run} {script : List Step} {s : Step} :
    r.Stopped (script ++ [s]) ↔ r.Stopped script ∨ (r.steps script).Stops s := by
  constructor
  · rintro (hstart | ⟨before, t, after, heq, hstops⟩)
    · exact .inl (.inl hstart)
    · rcases List.eq_nil_or_concat after with rfl | ⟨rest, last, rfl⟩
      · obtain ⟨rfl, hst⟩ := List.append_inj' heq rfl
        obtain rfl := (List.cons.inj hst).1
        exact .inr hstops
      · rw [List.concat_eq_append, ← List.cons_append, ← List.append_assoc] at heq
        exact .inl (.inr ⟨before, t, rest, (List.append_inj' heq rfl).1, hstops⟩)
  · rintro ((hstart | ⟨before, t, after, rfl, hstops⟩) | hstops)
    · exact .inl hstart
    · exact .inr ⟨before, t, after ++ [s], by simp, hstops⟩
    · exact .inr ⟨script, s, [], rfl, hstops⟩

/-! ### How the receiving task ends -/

/-- What stops a task within an act is a drop or a close from elsewhere, of a session that was
handed out. -/
theorem stops_of_stopsAtOnce {r : Run} {s : Step} (h : r.stopsAtOnce s = true) : r.Stops s := by
  cases s with
  | closeElsewhere =>
    have hboth : r.handedOut = true ∧ r.session.closed = false := by
      simpa [stopsAtOnce] using h
    exact .closedElsewhere hboth.1 hboth.2
  | drop => exact .dropped h
  | _ => exact absurd h Bool.false_ne_true

/-- A step leaves the task running unless its stream is over or something stops it. -/
theorem step_receiving_iff {r : Run} (h : r.Coherent) (s : Step) :
    (r.step s).receiving = true ↔
      r.receiving = true ∧ s.items.any Arrival.isLast = false ∧ ¬ r.Stops s := by
  have hact : (r.act s).receiving = true ↔
      r.receiving = true ∧ s.items.any Arrival.isLast = false ∧ r.stopsAtOnce s = false := by
    rw [act_receiving, Bool.and_eq_true, Bool.and_eq_true, Bool.not_eq_true', Bool.not_eq_true',
      and_assoc]
  have hsettle := settle_receiving_iff (act_coherent h s)
  rw [hact] at hsettle
  constructor
  · intro hreceiving
    obtain ⟨⟨hr, hlast, honce⟩, hstart, hgrace⟩ := hsettle.1 hreceiving
    refine ⟨hr, hlast, ?_⟩
    rintro (⟨e, hfailed⟩ | hinHand | ⟨hinHand, hopen⟩ | hover)
    · exact hstart e hfailed
    · exact absurd (hinHand.symm.trans honce) (by decide)
    · rw [stopsAtOnce, hinHand, hopen] at honce
      exact absurd honce (by decide)
    · exact absurd (hover.symm.trans hgrace) (by decide)
  · rintro ⟨hr, hlast, hgoes⟩
    refine hsettle.2 ⟨⟨hr, hlast, ?_⟩, fun e hfailed => hgoes (.failedStart e hfailed), ?_⟩
    · exact Bool.eq_false_iff.2 fun honce => hgoes (stops_of_stopsAtOnce honce)
    · exact Bool.eq_false_iff.2 fun hover => hgoes (.graceOver hover)

/-- The step lemma of `Coherent`. -/
theorem step_coherent {r : Run} (h : r.Coherent) (s : Step) : (r.step s).Coherent :=
  settle_coherent (act_coherent h s)

/-- By induction over the script. -/
theorem steps_coherent {r : Run} (h : r.Coherent) (script : List Step) :
    (r.steps script).Coherent := by
  induction script generalizing r with
  | nil => exact h
  | cons s script ih => exact ih (step_coherent h s)

/-- A run that has just begun: its task receives, or its start has failed at once. -/
structure Begun (r : Run) : Prop where
  coherent : r.Coherent
  receiving : r.receiving = true ∨ ∃ e, r.start = .failed e

/-- Every run begins so, whether its stream could be opened or not. -/
theorem begun_begin (create : WatchCreateRequest) (timeout : Option Duration)
    (handler : Behaviour) (openFailure : Option Status) :
    (begin create timeout handler openFailure).Begun := by
  unfold begin
  cases openFailure with
  | some s => exact ⟨fun _ _ => rfl, .inr ⟨_, rfl⟩⟩
  | none =>
    refine ⟨settle_coherent fun e he => absurd he (by simp), ?_⟩
    rcases decideStart_cases
      { session := Session.send {} (.watchCreate create), timeout, handler } with
      h | ⟨id, h⟩ | ⟨e, h⟩
    · exact .inl (by simp only [settle]; rw [h]; rfl)
    · exact .inl (by simp only [settle]; rw [h]; rfl)
    · exact .inr ⟨e, by simp only [settle]; rw [h]; rfl⟩

/-- **The receiving task runs exactly until its stream is over or something stops it.** -/
theorem receiving_iff {r : Run} (h : r.Begun) (script : List Step) :
    (r.steps script).receiving = true ↔
      (arrivals script).any Arrival.isLast = false ∧ ¬ r.Stopped script := by
  induction script using List.reverseRec with
  | nil =>
    have hnil : r.Stopped [] ↔ ∃ e, r.start = .failed e := by
      simp [Stopped]
    rw [steps_nil, hnil]
    constructor
    · intro hreceiving
      refine ⟨rfl, fun ⟨e, hfailed⟩ => ?_⟩
      exact absurd (hreceiving.symm.trans (h.coherent e hfailed)) (by decide)
    · intro hgoes
      exact h.receiving.resolve_right hgoes.2
  | append_singleton script s ih =>
    rw [steps_concat, step_receiving_iff (steps_coherent h.coherent script), ih, stopped_concat,
      arrivals_concat, List.any_append, Bool.or_eq_false_iff, not_or]
    constructor
    · rintro ⟨⟨hover, hgoes⟩, hlast, hstep⟩
      exact ⟨⟨hover, hlast⟩, hgoes, hstep⟩
    · rintro ⟨⟨hover, hlast⟩, hgoes, hstep⟩
      exact ⟨⟨hover, hgoes⟩, hlast, hstep⟩

/-! ### What is delivered -/

/-- What a step hands to the handler. -/
def handed (r : Run) (s : Step) : List (Arrival WatchResponse) :=
  if r.receiving then Arrival.stream s.items else []

/-- What a script hands to the handler. -/
def delivered (r : Run) (script : List Step) : List (Arrival WatchResponse) :=
  observe step handed r script

/-- What two scripts deliver in a row is what the first one does and then what the second does after
it. -/
theorem delivered_append (r : Run) (first second : List Step) :
    r.delivered (first ++ second) = r.delivered first ++ (r.steps first).delivered second :=
  observe_append step handed r first second

/-- One more step delivers what the receiving task is handed in it. -/
theorem delivered_concat (r : Run) (script : List Step) (s : Step) :
    r.delivered (script ++ [s]) = r.delivered script ++ (r.steps script).handed s := by
  rw [delivered_append]
  exact congrArg _ (List.append_nil _)

/-- The handler is told exactly what is delivered. -/
theorem steps_callbacks (r : Run) (script : List Step) :
    (r.steps script).callbacks =
      r.callbacks ++ (r.delivered script).map Arrival.callback := by
  refine foldl_eq_append_observe (f := List.map Arrival.callback) callbacks (fun _ => True)
    (fun _ _ _ => trivial) rfl (fun _ _ => List.map_append) (fun r s _ => ?_) trivial script
  rw [step, settle_callbacks, act_callbacks, handed]

/-- A task that has ended tells nothing. -/
theorem steps_callbacks_of_stopped {r : Run} (h : r.receiving = false) (script : List Step) :
    (r.steps script).callbacks = r.callbacks := by
  have hnone : r.delivered script = [] :=
    (observe_of_stopped (fun r : Run => r.receiving = false)
      (fun r s h => by rw [handed, h]; rfl) (fun _ s h => step_of_stopped h s) h script).1
  rw [steps_callbacks, hnone]
  exact List.append_nil _

/-- Nothing that arrives takes back what the handler was told. -/
theorem receive_callbacks_grow (r : Run) (a : Arrival WatchResponse) :
    r.callbacks <+: (r.receive a).callbacks := by
  cases hr : r.receiving with
  | false => exact ⟨[], by rw [receive_of_stopped hr, List.append_nil]⟩
  | true => exact ⟨_, (receive_callbacks hr a).symm⟩

/-- No step takes back what the handler was told. -/
theorem step_callbacks_grow (r : Run) (s : Step) : r.callbacks <+: (r.step s).callbacks := by
  rw [step, settle_callbacks, act_callbacks]
  exact List.prefix_append _ _

/-- A task that was not stopped hands on what the next step adds to its stream. -/
theorem delivered_concat_eq {r : Run} (h : r.Begun) {script : List Step} (s : Step)
    (hgoes : ¬ r.Stopped script) (hbefore : r.delivered script = Arrival.stream (arrivals script)) :
    r.delivered (script ++ [s]) = Arrival.stream (arrivals (script ++ [s])) := by
  rw [delivered_concat, arrivals_concat, hbefore, handed]
  have hreceiving := receiving_iff h script
  cases hlast : (arrivals script).any Arrival.isLast with
  | true =>
    have hended : (r.steps script).receiving = false := by
      refine Bool.eq_false_iff.2 fun hruns => ?_
      exact Bool.false_ne_true ((hreceiving.1 hruns).1.symm.trans hlast)
    rw [hended, Arrival.stream_append_of_last hlast, if_neg Bool.false_ne_true, List.append_nil]
  | false =>
    rw [hreceiving.2 ⟨hlast, hgoes⟩, if_pos rfl, Arrival.stream_append_of_no_last hlast,
      Arrival.stream_of_no_last hlast]

/-- A task that was not stopped has handed on everything that its stream carried. -/
theorem delivered_eq {r : Run} (h : r.Begun) {script : List Step} (hgoes : ¬ r.Stopped script) :
    r.delivered script = Arrival.stream (arrivals script) := by
  induction script using List.reverseRec with
  | nil => rfl
  | append_singleton script s ih =>
    have hearlier : ¬ r.Stopped script := fun hstopped => hgoes (stopped_concat.2 (.inl hstopped))
    exact delivered_concat_eq h s hearlier (ih hearlier)

/-- In any case it has handed on a first part of that. -/
theorem delivered_prefix {r : Run} (h : r.Begun) (script : List Step) :
    r.delivered script <+: Arrival.stream (arrivals script) := by
  induction script using List.reverseRec with
  | nil => exact List.prefix_refl _
  | append_singleton script s ih =>
    cases hruns : (r.steps script).receiving with
    | true =>
      have hgoes := ((receiving_iff h script).1 hruns).2
      have hall := delivered_concat_eq h s hgoes (delivered_eq h hgoes)
      exact ⟨[], by rw [List.append_nil, hall]⟩
    | false =>
      rw [delivered_concat, handed, hruns, if_neg Bool.false_ne_true, List.append_nil,
        arrivals_concat]
      exact ih.trans (Arrival.stream_prefix _ _)

/-! ### From the start on -/

/-- Before anything arrives the handler is told nothing. -/
theorem begin_callbacks (create : WatchCreateRequest) (timeout : Option Duration)
    (handler : Behaviour) (openFailure : Option Status) :
    (begin create timeout handler openFailure).callbacks = [] := by
  unfold begin
  cases openFailure with
  | some s => rfl
  | none => exact settle_callbacks _

/-- **Delivery is lossless and in order.** The handler is told a first part of what the stream
carries, each item once, unchanged and in order, and nothing after a failure or the end. The part
holds every item that arrived before the receiving task was stopped. -/
theorem delivery_in_order (create : WatchCreateRequest) (timeout : Option Duration)
    (handler : Behaviour) (openFailure : Option Status) (script : List Step) :
    let start := begin create timeout handler openFailure
    let callbacks := (start.steps script).callbacks
    ∃ delivered,
      delivered <+: Arrival.stream (arrivals script) ∧
      callbacks = delivered.map Arrival.callback ∧
      (∀ before c after, callbacks = before ++ c :: after → c.isFinal = true → after = []) ∧
      ∀ before s after, script = before ++ s :: after → ¬ start.Stopped before →
        Arrival.stream (arrivals (before ++ [s])) <+: delivered := by
  intro start callbacks
  have hbegun := begun_begin create timeout handler openFailure
  have hprefix := delivered_prefix hbegun script
  have htold : callbacks = (start.delivered script).map Arrival.callback := by
    have h := start.steps_callbacks script
    rwa [begin_callbacks, List.nil_append] at h
  refine ⟨start.delivered script, hprefix, htold, fun before c after heq hfinal => ?_,
    fun before s after heq hgoes => ?_⟩
  · exact Arrival.eq_nil_of_callbacks_eq hprefix (htold.symm.trans heq) hfinal
  · have hall := delivered_concat_eq hbegun s hgoes (delivered_eq hbegun hgoes)
    rw [← hall, heq, List.append_cons before s after, delivered_append start (before ++ [s])]
    exact List.prefix_append _ _

/-- An event in front of the creation, the creation and the end are delivered in this order, and
what is sent behind the end is not. -/
example :
    let event : Arrival WatchResponse := .response { watchId := 42 }
    let creation : Arrival WatchResponse := .response { watchId := 42, created := true }
    let script : List Step := [.arrive [event], .arrive [creation, .finish, event]]
    let start := begin (({} : WatchOptions).request [97]) none .record none
    start.delivered script = [event, creation, .finish] ∧
      (start.steps script).callbacks =
        [.response { watchId := 42 }, .response { watchId := 42, created := true }, .completed] ∧
      (start.steps script).start = .ready 42 ∧ (start.steps script).receiving = false :=
  ⟨rfl, rfl, rfl, rfl⟩

end Run
end Watch
end EtcdClient
