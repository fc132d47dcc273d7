import EtcdClient.Proofs.Watch.Requests

/-
# A creation that is refused

A server refuses to create a watch by one response that is flagged created and canceled at once. A
start looks for the flag created alone, so it takes that response for the confirmation
(`start_of_first_created`), and the caller gets a session for a watch that does not exist
(`refused_creation_starts`):

| what decides the start first | start | session |
| --- | --- | --- |
| the stream cannot be opened | fails | closed |
| the timeout is over | fails | closed |
| the first response flagged created, canceled or not | ready, with its number | left alone |

Source: `SPEC_FULL.md` §4.2, the third step of the construction, and `WatchResponse` of `rpc.proto`.
-/

namespace EtcdClient

/-- What counts among the arrivals is among the causes. -/
theorem mem_causesFrom {ρ : Type} {counts : Arrival ρ → Bool} {timeout : Option Duration}
    {clock : Duration} {sights : List (Sight ρ)} {a : Arrival ρ}
    (ha : a ∈ sights.flatMap Sight.items) (hcounts : counts a = true) :
    .arrival a ∈ causesFrom counts timeout clock sights := by
  induction sights generalizing clock with
  | nil => exact absurd ha List.not_mem_nil
  | cons s sights ih =>
    rw [causesFrom_cons, List.mem_append]
    rw [List.flatMap_cons, List.mem_append] at ha
    refine ha.imp (fun hs => ?_) fun hrest => ih hrest
    rw [Sight.causes, List.mem_append]
    exact .inl (List.mem_map_of_mem (List.mem_filter.2 ⟨hs, hcounts⟩))

/-- If something arrives that counts, then the first such arrival is what decides, unless the stream
is refused or the time is over before that. -/
theorem head?_causes_of_find? {ρ : Type} {counts : Arrival ρ → Bool} {timeout : Option Duration}
    {openFailure : Option Status} {sights : List (Sight ρ)} {a : Arrival ρ}
    (h : (sights.flatMap Sight.items).find? counts = some a) :
    let cause := (causes counts timeout openFailure sights).head?
    (∃ s, cause = some (.refused s)) ∨ (∃ t, cause = some (.timeout t)) ∨
      cause = some (.arrival a) := by
  intro cause
  -- The arrival is a cause itself, so there is a first one.
  have hne : causes counts timeout openFailure sights ≠ [] := by
    have hmem : .arrival a ∈ causesFrom counts timeout ⟨0⟩ ({} :: sights) :=
      mem_causesFrom (List.mem_of_find?_eq_some h) (List.find?_some h)
    exact List.ne_nil_of_mem (List.mem_append_right _ hmem)
  obtain ⟨c, hc⟩ : ∃ c, cause = some c :=
    Option.ne_none_iff_exists'.1 fun hnone => hne (List.head?_eq_none_iff.1 hnone)
  cases c with
  | refused s => exact .inl ⟨s, hc⟩
  | timeout t => exact .inr (.inl ⟨t, hc⟩)
  | arrival b =>
    rw [find?_of_head?_causes hc] at h
    exact .inr (.inr (Option.some.inj h ▸ hc))

/-- In a stream that has a response flagged created nothing answers the creation before the first of
them. -/
theorem Arrival.find?_answers_of_created {as : List (Arrival WatchResponse)}
    {a : Arrival WatchResponse} (h : (stream as).find? isCreated = some a) :
    (stream as).find? answers = some a := by
  -- Along the stream: before the first response flagged created stand only responses without the
  -- flag, which do not answer.
  induction as with
  | nil => exact absurd h nofun
  | cons b as ih =>
    cases b with
    | response w =>
      have hsame : answers (.response w) = isCreated (.response w) := rfl
      rw [stream_cons_of_not_last rfl] at h ⊢
      rw [List.find?_cons, hsame]
      rw [List.find?_cons] at h
      cases hw : isCreated (.response w) with
      | true => rwa [hw] at h
      | false =>
        rw [hw] at h
        exact ih h
    | failure s => exact absurd h nofun
    | finish => exact absurd h nofun

namespace Watch
namespace Run

/-- **A start takes the first response flagged created for the confirmation,** whether or not it is
flagged canceled. So in a script that has one the start fails, and the session is closed by that,
just if something else decides it first, which is a stream that cannot be opened or the timeout.
Otherwise the session is handed out under the number in the response, and is closed only if it is
closed afterwards. -/
theorem start_of_first_created (create : WatchCreateRequest) (timeout : Option Duration)
    (handler : Behaviour) (openFailure : Option Status) (script : List Step) (w : WatchResponse)
    (hfirst : (Arrival.stream (arrivals script)).find? Arrival.isCreated = some (.response w)) :
    let start := begin create timeout handler openFailure
    let r := start.steps script
    let cause := (causes Arrival.answers timeout openFailure (script.map Step.sight)).head?
    ((∃ e, r.start = .failed e) ∧ r.session.closed = true ↔
        (∃ s, cause = some (.refused s)) ∨ ∃ t, cause = some (.timeout t)) ∧
      (¬ ((∃ s, cause = some (.refused s)) ∨ ∃ t, cause = some (.timeout t)) →
        r.start = .ready w.watchId ∧ (r.session.closed = true ↔ start.closings script ≠ [])) := by
  intro start r cause
  have hstart : r.start = cause.elim .waiting verdict :=
    (steps_settled create timeout handler openFailure script).start_eq fun _ hp => hp.start_eq
  have haccount : r.Account create (start.closings script) :=
    (account_begin create timeout handler openFailure).steps script
  -- What answers first is the response flagged created.
  have hanswer : ((script.map Step.sight).flatMap Sight.items).find? Arrival.answers =
      some (.response w) := by
    rw [items_of_sights, ← Arrival.find?_stream Arrival.answers_of_isLast]
    exact Arrival.find?_answers_of_created hfirst
  have hfails {e : ClientError} (h : r.start = .failed e) :
      (∃ e, r.start = .failed e) ∧ r.session.closed = true :=
    ⟨⟨e, h⟩, haccount.closed_iff.2 (.inl ⟨e, h⟩)⟩
  -- So the first cause is that response, or one that came before it without being an arrival.
  obtain ⟨s, hc⟩ | ⟨t, hc⟩ | hc : (∃ s, cause = some (.refused s)) ∨
    (∃ t, cause = some (.timeout t)) ∨ cause = some (.arrival (.response w)) :=
      head?_causes_of_find? hanswer
  · rw [hc] at hstart
    exact ⟨iff_of_true (hfails hstart) (.inl ⟨s, hc⟩), fun h => absurd (.inl ⟨s, hc⟩) h⟩
  · rw [hc] at hstart
    exact ⟨iff_of_true (hfails hstart) (.inr ⟨t, hc⟩), fun h => absurd (.inr ⟨t, hc⟩) h⟩
  · rw [hc] at hstart
    have hready : r.start = .ready w.watchId := hstart
    refine ⟨iff_of_false ?_ ?_, fun _ => ⟨hready, haccount.closed_iff_ne_nil hready⟩⟩
    · rintro ⟨⟨e, he⟩, -⟩
      exact absurd (hready.symm.trans he) nofun
    · rw [hc]
      exact not_or.2 ⟨nofun, nofun⟩

/-- A server that refuses a creation under the number -1, after a response of another kind and
within the timeout, gets it confirmed as the start of watch -1. -/
theorem start_of_first_created_canceled :
    let create := ({} : WatchOptions).request [97]
    let script : List Step := [.arrive [.response { watchId := 0 }], .advance (.ofSeconds 4),
      .arrive [.response { watchId := -1, created := true, canceled := true }]]
    let w : WatchResponse := { watchId := -1, created := true, canceled := true }
    (Arrival.stream (arrivals script)).find? Arrival.isCreated = some (.response w) ∧
      ((begin create (some (.ofSeconds 5)) .record none).steps script).start = .ready (-1) := by
  intro create script w
  have hfirst : (Arrival.stream (arrivals script)).find? Arrival.isCreated = some (.response w) :=
    rfl
  refine ⟨hfirst, ((start_of_first_created create (some (.ofSeconds 5)) .record none script w
    hfirst).2 ?_).1⟩
  exact not_or.2 ⟨nofun, nofun⟩

/-- **A creation that is refused starts a watch.** It is not so that a start fails and leaves the
session closed whenever the first response flagged created is flagged canceled as well: if nothing
else happens, the session is handed out open. -/
theorem refused_creation_starts :
    ¬ ∀ (create : WatchCreateRequest) (timeout : Option Duration) (handler : Behaviour)
      (openFailure : Option Status) (script : List Step) (w : WatchResponse),
      (Arrival.stream (arrivals script)).find? Arrival.isCreated = some (.response w) →
      w.canceled = true →
        let r := (begin create timeout handler openFailure).steps script
        (∃ e, r.start = .failed e) ∧ r.session.closed = true := by
  intro h
  let refusal : WatchResponse :=
    { watchId := -1, created := true, canceled := true, cancelReason := "permission denied" }
  have hclosed := (h (({} : WatchOptions).request [107]) none .record none
    [.arrive [.response refusal]] refusal rfl rfl).2
  exact absurd hclosed Bool.false_ne_true

end Run
end Watch
end EtcdClient
