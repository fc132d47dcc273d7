import EtcdClient.Proofs.Session.Stream
import EtcdClient.Watch.Run

/-
# What the steps of a watch run do

Each part of a step is described once, by what it does to the handler's calls, to the receiving task
and to the start:

| part | calls | receiving task | start |
| --- | --- | --- | --- |
| closing, telling | one for each item told | as before | as before |
| `receive` | the item, if the task runs | ends with a failure or the end | as before |
| `act` | what the stream carries of the items | ends with the last item, or at once | as before |
| `settle` | none | ends with a failed start or the grace | decided if it can be |

A close with a time of grace is none of what ends the task at once (`stopsAtOnce`).

Source: the parts of a run as `SPEC_FULL.md` §10.4 has them.
-/

namespace EtcdClient
namespace Watch

/-- What arrives in a step. -/
def Step.items : Step → List (Arrival WatchResponse)
  | .arrive items => items
  | _ => []

namespace Run

/-- A run after a script. -/
def steps (r : Run) (script : List Step) : Run := script.foldl step r

/-- A script is played from the front, one step at a time. -/
@[simp] theorem steps_nil (r : Run) : r.steps [] = r := rfl

/-- The last step of a script is taken last. -/
theorem steps_concat (r : Run) (script : List Step) (s : Step) :
    r.steps (script ++ [s]) = (r.steps script).step s := by
  simp [steps, List.foldl_append]

/-! ### Closing and telling -/

/-- A close is not told, does not end the task yet and has no part in the start. -/
@[simp] theorem close_callbacks (r : Run) : r.close.callbacks = r.callbacks := by
  unfold close
  split <;> rfl

/-- A close leaves the receiving task running: it is the grace that ends it. -/
@[simp] theorem close_receiving (r : Run) : r.close.receiving = r.receiving := by
  unfold close
  split <;> rfl

/-- A close decides no start. -/
@[simp] theorem close_start (r : Run) : r.close.start = r.start := by
  unfold close
  split <;> rfl

/-- A handler is told once, and what it does is at most to close the session. -/
theorem tell_cases (r : Run) (listener : Listener) (c : Callback WatchResponse) :
    ∃ log, r.tell listener c = { r with callbacks := r.callbacks ++ [c], log } ∨
      r.tell listener c = { r with callbacks := r.callbacks ++ [c], log }.close := by
  refine ⟨r.log ++ LogEntry.ofCall listener r.handler, ?_⟩
  unfold tell
  dsimp only
  split
  · split
    · exact .inr rfl
    · exact .inl rfl
  · exact .inl rfl

/-- Whatever the handler does, it was told first. -/
@[simp] theorem tell_callbacks (r : Run) (listener : Listener) (c : Callback WatchResponse) :
    (r.tell listener c).callbacks = r.callbacks ++ [c] := by
  obtain ⟨log, h | h⟩ := r.tell_cases listener c
  · rw [h]
  · rw [h, close_callbacks]

/-- The task goes on when the handler is told, also if that closes the session. -/
@[simp] theorem tell_receiving (r : Run) (listener : Listener) (c : Callback WatchResponse) :
    (r.tell listener c).receiving = r.receiving := by
  obtain ⟨log, h | h⟩ := r.tell_cases listener c
  · rw [h]
  · rw [h, close_receiving]

/-- A handler cannot decide the start. -/
@[simp] theorem tell_start (r : Run) (listener : Listener) (c : Callback WatchResponse) :
    (r.tell listener c).start = r.start := by
  obtain ⟨log, h | h⟩ := r.tell_cases listener c
  · rw [h]
  · rw [h, close_start]

/-! ### Taking what arrives -/

/-- Nothing is received without a task. -/
theorem receive_of_stopped {r : Run} (h : r.receiving = false) (a : Arrival WatchResponse) :
    r.receive a = r := by
  simp [receive, h]

/-- A receiving task hands on what arrives, unchanged. -/
theorem receive_callbacks {r : Run} (h : r.receiving = true) (a : Arrival WatchResponse) :
    (r.receive a).callbacks = r.callbacks ++ [a.callback] := by
  unfold receive
  rw [if_pos h]
  cases a with
  | response response =>
    dsimp only
    split <;> exact tell_callbacks _ _ _
  | failure s => exact tell_callbacks _ _ _
  | finish => exact tell_callbacks _ _ _

/-- It stops after a failure or the end. -/
theorem receive_receiving (r : Run) (a : Arrival WatchResponse) :
    (r.receive a).receiving = (r.receiving && !a.isLast) := by
  cases h : r.receiving with
  | false => rw [receive_of_stopped h, h, Bool.false_and]
  | true =>
    unfold receive
    rw [if_pos h]
    cases a with
    | response response =>
      dsimp only
      split <;> simp [decide, Arrival.isLast, h]
    | failure s => rfl
    | finish => rfl

/-- What arrives decides the start only when all settles. -/
@[simp] theorem receive_start (r : Run) (a : Arrival WatchResponse) :
    (r.receive a).start = r.start := by
  unfold receive
  split
  · cases a with
    | response response =>
      dsimp only
      split <;> exact tell_start _ _ _
    | failure s => exact tell_start _ _ _
    | finish => exact tell_start _ _ _
  · rfl

/-- Of several items a receiving task hands on what a stream carries of them. -/
theorem receiveAll_callbacks (r : Run) (items : List (Arrival WatchResponse)) :
    (items.foldl receive r).callbacks =
      r.callbacks ++ (if r.receiving then Arrival.stream items else []).map Arrival.callback := by
  induction items generalizing r with
  | nil => simp [Arrival.stream]
  | cons a items ih =>
    rw [List.foldl_cons, ih, receive_receiving]
    cases h : r.receiving with
    | false => simp [receive_of_stopped h]
    | true =>
      rw [receive_callbacks h]
      cases ha : a.isLast with
      | true => simp [Arrival.stream_cons_of_last ha]
      | false => simp [Arrival.stream_cons_of_not_last ha]

/-- The task runs through what arrives up to the item that ends its stream. -/
theorem receiveAll_receiving (r : Run) (items : List (Arrival WatchResponse)) :
    (items.foldl receive r).receiving = (r.receiving && !items.any Arrival.isLast) := by
  induction items generalizing r with
  | nil => simp
  | cons a items ih =>
    rw [List.foldl_cons, ih, receive_receiving, List.any_cons, Bool.not_or, Bool.and_assoc]

/-- All that arrives in one step decides the start only when all settles. -/
theorem receiveAll_start (r : Run) (items : List (Arrival WatchResponse)) :
    (items.foldl receive r).start = r.start := by
  induction items generalizing r with
  | nil => rfl
  | cons a items ih => rw [List.foldl_cons, ih, receive_start]

/-! ### Acting -/

/-- The step ends the receiving task whatever its stream carries. -/
def stopsAtOnce (r : Run) : Step → Bool
  | .closeElsewhere => r.handedOut && !r.session.closed
  | .drop => r.handedOut
  | _ => false

/-- **A step tells the handler what it brings of the stream,** if the task runs. -/
theorem act_callbacks (r : Run) (s : Step) :
    (r.act s).callbacks =
      r.callbacks ++ (if r.receiving then Arrival.stream s.items else []).map Arrival.callback := by
  have hnone : r.callbacks =
      r.callbacks ++ (if r.receiving then Arrival.stream [] else []).map Arrival.callback := by
    simp [Arrival.stream]
  -- Only an arrival is told. To close and to drop change the session and the task.
  cases s with
  | arrive items => exact r.receiveAll_callbacks items
  | advance d => exact hnone
  | close =>
    simp only [act]
    split
    · exact r.close_callbacks.trans hnone
    · exact hnone
  | closeElsewhere =>
    simp only [act, closeElsewhere]
    split
    · split <;> exact hnone
    · exact hnone
  | drop =>
    simp only [act]
    split <;> exact hnone
  | hangUp => exact hnone
  | setHandler b => exact hnone

/-- **A step leaves the task running** unless it brings the end of the stream or stops it at
once. -/
theorem act_receiving (r : Run) (s : Step) :
    (r.act s).receiving =
      (r.receiving && !s.items.any Arrival.isLast && !r.stopsAtOnce s) := by
  have hsame : r.receiving =
      (r.receiving && !([] : List (Arrival WatchResponse)).any Arrival.isLast && !false) := by simp
  cases s with
  | arrive items =>
    show (items.foldl receive r).receiving = (r.receiving && !items.any Arrival.isLast && !false)
    rw [receiveAll_receiving, Bool.not_false, Bool.and_true]
  | advance d => exact hsame
  | close =>
    -- A close leaves the task alone; the two others end it, if there is a session in hand to be
    -- closed.
    simp only [act]
    split
    · exact r.close_receiving.trans hsame
    · exact hsame
  | closeElsewhere =>
    simp only [act, closeElsewhere, stopsAtOnce, Step.items]
    cases r.handedOut <;> cases r.session.closed <;> simp
  | drop =>
    simp only [act, stopsAtOnce, Step.items]
    cases r.handedOut <;> simp [abort]
  | hangUp => exact hsame
  | setHandler b => exact hsame

/-- A step decides the start only when all settles. -/
theorem act_start (r : Run) (s : Step) : (r.act s).start = r.start := by
  cases s with
  | arrive items => exact r.receiveAll_start items
  | advance d => rfl
  | close =>
    simp only [act]
    split
    · exact r.close_start
    · rfl
  | closeElsewhere =>
    simp only [act, closeElsewhere]
    split
    · split <;> rfl
    · rfl
  | drop =>
    simp only [act]
    split <;> rfl
  | hangUp => rfl
  | setHandler b => rfl

/-! ### Settling -/

/-- The start stays as it is, hands the session out or gives it up. -/
theorem decideStart_cases (r : Run) :
    r.decideStart = r ∨
      (∃ id, r.decideStart =
        { r with start := .ready id, session := { r.session with watchId := some id } }) ∨
      ∃ e, r.decideStart = r.giveUp e := by
  unfold decideStart
  split
  · split
    · exact .inr (.inl ⟨_, rfl⟩)
    · exact .inr (.inr ⟨_, rfl⟩)
    · split
      · split
        · exact .inr (.inr ⟨_, rfl⟩)
        · exact .inl rfl
      · exact .inl rfl
  · exact .inl rfl

/-- What happens by itself is not told. -/
@[simp] theorem settle_callbacks (r : Run) : r.settle.callbacks = r.callbacks := by
  show r.decideStart.callbacks = r.callbacks
  rcases r.decideStart_cases with h | ⟨id, h⟩ | ⟨e, h⟩ <;> rw [h]
  rfl

/-- A task whose start has failed does not receive. -/
def Coherent (r : Run) : Prop := ∀ e, r.start = .failed e → r.receiving = false

/-- A start that has failed has no task, before and after every part of a step. -/
theorem act_coherent {r : Run} (h : r.Coherent) (s : Step) : (r.act s).Coherent := by
  intro e he
  rw [act_start] at he
  rw [act_receiving, h e he, Bool.false_and, Bool.false_and]

/-- A start that fails when the run settles stops the receiving task. -/
theorem settle_coherent {r : Run} (h : r.Coherent) : r.settle.Coherent := by
  intro e he
  show (r.decideStart.receiving && !r.decideStart.graceOver) = false
  have hstart : r.decideStart.start = .failed e := he
  rcases r.decideStart_cases with hr | ⟨id, hr⟩ | ⟨e', hr⟩
  · rw [hr] at hstart ⊢
    rw [h e hstart, Bool.false_and]
  · rw [hr] at hstart
    exact absurd hstart (by simp)
  · rw [hr]
    rfl

/-- **Settling ends the receiving task only with a failed start or the end of the grace.** -/
theorem settle_receiving_iff {r : Run} (h : r.Coherent) :
    r.settle.receiving = true ↔
      r.receiving = true ∧ (∀ e, r.settle.start ≠ .failed e) ∧ r.settle.graceOver = false := by
  constructor
  -- The task receives after settling, so it did before and nothing of the two has ended it.
  · intro hreceiving
    have hboth : r.decideStart.receiving = true ∧ r.decideStart.graceOver = false := by
      have hand : (r.decideStart.receiving && !r.decideStart.graceOver) = true := hreceiving
      simpa using hand
    refine ⟨?_, fun e he => ?_, hboth.2⟩
    · rcases r.decideStart_cases with hr | ⟨id, hr⟩ | ⟨e, hr⟩
      · rw [← hr]
        exact hboth.1
      · rw [hr] at hboth
        exact hboth.1
      · rw [hr] at hboth
        exact absurd hboth.1 Bool.false_ne_true
    · have hstopped := settle_coherent h e he
      rw [hstopped] at hreceiving
      exact Bool.false_ne_true hreceiving
  -- Settling stops the task in two ways, and neither of them applies.
  · rintro ⟨hreceiving, hstart, hgrace⟩
    show (r.decideStart.receiving && !r.decideStart.graceOver) = true
    have hover : r.decideStart.graceOver = false := hgrace
    rcases r.decideStart_cases with hr | ⟨id, hr⟩ | ⟨e, hr⟩
    · rw [hover, hr, hreceiving]
      rfl
    · rw [hover, hr, Bool.not_false, Bool.and_true]
      exact hreceiving
    · refine absurd ?_ (hstart e)
      show r.decideStart.start = .failed e
      rw [hr]
      rfl

/-- The receiving task does not begin again. -/
theorem step_of_stopped {r : Run} (h : r.receiving = false) (s : Step) :
    (r.step s).receiving = false := by
  have hact : (r.act s).receiving = false := by rw [act_receiving, h]; rfl
  show ((r.act s).decideStart.receiving && !(r.act s).decideStart.graceOver) = false
  rcases (r.act s).decideStart_cases with hr | ⟨id, hr⟩ | ⟨e, hr⟩
  · rw [hr, hact, Bool.false_and]
  · rw [hr]
    show ((r.act s).receiving && _) = false
    rw [hact, Bool.false_and]
  · rw [hr]
    rfl

end Run
end Watch
end EtcdClient
