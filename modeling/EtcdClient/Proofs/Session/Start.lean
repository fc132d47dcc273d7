import EtcdClient.Proofs.Session.Stream
import EtcdClient.Proofs.Trace

/-
# What decides the start of a session

A start is decided by the first thing that can decide it. `causes` lists everything along a script
that can, in order, and looks at nothing but the script:

| cause | when |
| --- | --- |
| `refused` | the stream could not be opened |
| `arrival` | something arrives that counts for the start |
| `timeout` | the time since the opening reaches the timeout |

What counts is a matter of the kind of session. So is the verdict that a cause brings, which is
never to go on waiting. `Settled` says that a session is as its causes want it: its start is pending
while there is none, and the verdict of the first one otherwise. `Settled.run` carries that over a
whole script once each step is known to do so.

Source: `SPEC_FULL.md` §4.3 and §10.4, `Handshake` and `await_handshake`.
-/

namespace EtcdClient

variable {ρ : Type}

/-- What a start gets to see in a step: what arrives, and how much time goes by. -/
structure Sight (ρ : Type) where
  items : List (Arrival ρ) := []
  elapsed : Duration := ⟨0⟩

/-- What can decide a start. -/
inductive Cause (ρ : Type)
  | refused (s : Status)
  | arrival (a : Arrival ρ)
  | timeout (t : Duration)

/-- The time is over, if there is a limit and the clock has reached it. -/
def overdue (timeout : Option Duration) (clock : Duration) : List (Cause ρ) :=
  match timeout with
  | some t => if t ≤ clock then [.timeout t] else []
  | none => []

namespace Sight

/-- What in a step can decide a start, if `counts` tells which arrivals can. -/
def causes (counts : Arrival ρ → Bool) (timeout : Option Duration) (clock : Duration)
    (s : Sight ρ) : List (Cause ρ) :=
  (s.items.filter counts).map .arrival ++ overdue timeout (clock + s.elapsed)

/-- The clock after a step. -/
def after (clock : Duration) (s : Sight ρ) : Duration := clock + s.elapsed

end Sight

/-- What in a list of steps can decide a start, from a clock on. -/
def causesFrom (counts : Arrival ρ → Bool) (timeout : Option Duration) (clock : Duration)
    (sights : List (Sight ρ)) : List (Cause ρ) :=
  observe Sight.after (Sight.causes counts timeout) clock sights

/-- Everything that can decide a start, in order. The opening is a step of its own, in which nothing
arrives and no time goes by. -/
def causes (counts : Arrival ρ → Bool) (timeout : Option Duration) (openFailure : Option Status)
    (sights : List (Sight ρ)) : List (Cause ρ) :=
  openFailure.toList.map .refused ++ causesFrom counts timeout ⟨0⟩ ({} :: sights)

variable {counts : Arrival ρ → Bool} {timeout : Option Duration} {openFailure : Option Status}
  {clock : Duration}

/-- What can decide is seen step by step, each at the clock that the steps before have left. -/
theorem causesFrom_cons (s : Sight ρ) (sights : List (Sight ρ)) :
    causesFrom counts timeout clock (s :: sights) =
      s.causes counts timeout clock ++ causesFrom counts timeout (s.after clock) sights := rfl

/-! ### A script that is carried out -/

section Settled

variable {σ τ : Type} {step : σ → τ → σ} {start : σ → Start} {pending : σ → Prop}
  {verdict : Cause ρ → Start}

/-- A start is pending without a cause and decided by the first one. -/
def Settled (start : σ → Start) (pending : σ → Prop) (verdict : Cause ρ → Start)
    (cs : List (Cause ρ)) (r : σ) : Prop :=
  match cs.head? with
  | none => pending r
  | some c => start r = verdict c

/-- A start that was decided stays so, whatever happens. -/
theorem start_foldl_of_decided (hdecided : ∀ r s, start r ≠ .waiting → start (step r s) = start r)
    {r : σ} (h : start r ≠ .waiting) (script : List τ) : start (script.foldl step r) = start r := by
  induction script generalizing r with
  | nil => rfl
  | cons s script ih =>
    have hstep := hdecided r s h
    rw [List.foldl_cons, ih (hstep ▸ h), hstep]

/-- **Steps that settle a start make a run that does.** `hpending` is what one step does to a start
that is pending, `hdecided` that no step touches one that is decided. -/
theorem Settled.run (counts : Arrival ρ → Bool) (timeout : Option Duration) (sight : τ → Sight ρ)
    {elapsed : σ → Duration}
    (hclock : ∀ r s, pending r → elapsed (step r s) = (sight s).after (elapsed r))
    (hpending : ∀ r s, pending r →
      Settled start pending verdict ((sight s).causes counts timeout (elapsed r)) (step r s))
    (hdecided : ∀ r s, start r ≠ .waiting → start (step r s) = start r)
    (hverdict : ∀ c, verdict c ≠ .waiting) {cs : List (Cause ρ)} {r : σ}
    (h : Settled start pending verdict cs r) (script : List τ) :
    Settled start pending verdict
      (cs ++ causesFrom counts timeout (elapsed r) (script.map sight)) (script.foldl step r) := by
  -- A start that is decided at first stays so, and the further causes come too late.
  cases cs with
  | cons c cs =>
    have hc : start r = verdict c := h
    show start (script.foldl step r) = verdict c
    rw [start_foldl_of_decided hdecided (hc ▸ hverdict c), hc]
  | nil =>
    rw [List.nil_append]
    -- A start that is pending is taken along the script, and the clock of the steps goes with it.
    induction script generalizing r with
    | nil => exact h
    | cons s script ih =>
      have hstep := hpending r s h
      rw [List.map_cons, causesFrom_cons, List.foldl_cons, ← hclock r s h]
      cases hs : (sight s).causes counts timeout (elapsed r) with
      | nil =>
        rw [hs] at hstep
        exact ih hstep
      | cons c cs =>
        rw [hs] at hstep
        have hc : start (step r s) = verdict c := hstep
        show start (script.foldl step (step r s)) = verdict c
        rw [start_foldl_of_decided hdecided (hc ▸ hverdict c), hc]

namespace Settled

variable {cs : List (Cause ρ)} {r : σ}

/-- A start waits as long as there is no cause, and then it has the verdict on the first. -/
theorem start_eq (hwaiting : ∀ r, pending r → start r = .waiting)
    (h : Settled start pending verdict cs r) :
    start r = cs.head?.elim .waiting verdict := by
  cases cs with
  | nil => exact hwaiting r h
  | cons c cs => exact h

/-- A start that is not decided has no cause, and is pending. -/
theorem eq_nil_and_pending (hverdict : ∀ c, verdict c ≠ .waiting)
    (h : Settled start pending verdict cs r) (hr : start r = .waiting) :
    cs = [] ∧ pending r := by
  cases cs with
  | nil => exact ⟨rfl, h⟩
  | cons c cs =>
    have hc : start r = verdict c := h
    exact absurd (hc.symm.trans hr) (hverdict c)

/-- It waits just as long as there is no cause. -/
theorem waiting_iff (hwaiting : ∀ r, pending r → start r = .waiting)
    (hverdict : ∀ c, verdict c ≠ .waiting) (h : Settled start pending verdict cs r) :
    start r = .waiting ↔ cs.head? = none := by
  constructor
  · intro hr
    rw [(h.eq_nil_and_pending hverdict hr).1, List.head?_nil]
  · intro hnone
    rw [h.start_eq hwaiting, hnone]
    rfl

end Settled
end Settled

/-! ### The arrival that decides -/

/-- An arrival that decides is the first of all arrivals that counts. -/
theorem find?_of_head?_causesFrom (sights : List (Sight ρ)) {a : Arrival ρ}
    (h : (causesFrom counts timeout clock sights).head? = some (.arrival a)) :
    (sights.flatMap Sight.items).find? counts = some a := by
  induction sights generalizing clock with
  | nil => exact absurd h (by simp [causesFrom, observe])
  | cons s sights ih =>
    rw [List.flatMap_cons, List.find?_append]
    rw [causesFrom_cons, Sight.causes, List.append_assoc, List.head?_append, List.head?_map,
      List.head?_filter] at h
    cases hfind : s.items.find? counts with
    | some b =>
      rw [hfind] at h
      have hb : Cause.arrival b = .arrival a := Option.some.inj h
      rw [Cause.arrival.inj hb]
      rfl
    | none =>
      rw [hfind, Option.map_none, Option.none_or] at h
      -- What is overdue is no arrival, so the one that decides comes in a later step.
      unfold overdue at h
      split at h
      · split at h
        · exact absurd h (by simp)
        · exact ih h
      · exact ih h

/-- If an arrival decides, it is the first one that counts. -/
theorem find?_of_head?_causes {sights : List (Sight ρ)} {a : Arrival ρ}
    (h : (causes counts timeout openFailure sights).head? = some (.arrival a)) :
    (sights.flatMap Sight.items).find? counts = some a := by
  cases openFailure with
  | some s => exact absurd h (by simp [causes])
  | none => exact find?_of_head?_causesFrom ({} :: sights) h

/-! ### Counting fewer arrivals -/

/-- The first element found stays the first one in a narrower search that accepts it. -/
theorem find?_of_imp {α : Type} {p q : α → Bool} (hqp : ∀ b, q b = true → p b = true)
    {l : List α} {a : α} (h : l.find? p = some a) (ha : q a = true) : l.find? q = some a := by
  rw [List.find?_eq_some_iff_append] at h ⊢
  obtain ⟨-, before, after, rfl, hbefore⟩ := h
  refine ⟨ha, before, after, rfl, fun b hb => ?_⟩
  have hb' := hbefore b hb
  cases hq : q b with
  | false => rfl
  | true =>
    rw [hqp b hq] at hb'
    exact hb'

/-- A search that no failure and no end passes finds the same in a stream as in all that is said. -/
theorem Arrival.find?_stream {p : Arrival ρ → Bool} (hp : ∀ a, a.isLast = true → p a = true)
    (as : List (Arrival ρ)) : (stream as).find? p = as.find? p := by
  induction as with
  | nil => rfl
  | cons a as ih =>
    cases ha : a.isLast with
    | true => rw [stream_cons_of_last ha, List.find?_cons_of_pos (hp a ha),
        List.find?_cons_of_pos (hp a ha)]
    | false => rw [stream_cons_of_not_last ha, List.find?_cons, List.find?_cons, ih]

/-- The cause is none, or counts in a narrower sense too. -/
def Cause.meets (counts : Arrival ρ → Bool) : Cause ρ → Bool
  | .arrival a => counts a
  | _ => true

/-- To count fewer arrivals is to have fewer causes, in the same order and at the same times. -/
theorem causesFrom_filter {p q : Arrival ρ → Bool} (hqp : ∀ a, q a = true → p a = true)
    (sights : List (Sight ρ)) :
    (causesFrom p timeout clock sights).filter (Cause.meets q) =
      causesFrom q timeout clock sights := by
  have hitems (items : List (Arrival ρ)) :
      ((items.filter p).map Cause.arrival).filter (Cause.meets q) =
        (items.filter q).map .arrival := by
    -- Of the arrivals that count in the wider sense those are kept that count in the narrower one.
    rw [List.filter_map, List.filter_filter]
    refine congrArg _ (List.filter_congr fun a _ => ?_)
    show (q a && p a) = q a
    cases hq : q a with
    | true => rw [hqp a hq, Bool.and_true]
    | false => rfl
  have hdue (t : Duration) :
      (overdue (ρ := ρ) timeout t).filter (Cause.meets q) = overdue timeout t := by
    unfold overdue
    split
    · split <;> rfl
    · rfl
  induction sights generalizing clock with
  | nil => rfl
  | cons s sights ih =>
    rw [causesFrom_cons, causesFrom_cons, List.filter_append, ih, Sight.causes, Sight.causes,
      List.filter_append, hitems, hdue]

/-- If the first cause counts in a narrower sense too, it is the first one in that sense. -/
theorem head?_causes_of_meets {p q : Arrival ρ → Bool} (hqp : ∀ a, q a = true → p a = true)
    {sights : List (Sight ρ)}
    (h : ∀ c, (causes p timeout openFailure sights).head? = some c → c.meets q = true) :
    (causes q timeout openFailure sights).head? =
      (causes p timeout openFailure sights).head? := by
  have hfilter : (causes p timeout openFailure sights).filter (Cause.meets q) =
      causes q timeout openFailure sights := by
    rw [causes, causes, List.filter_append, causesFrom_filter hqp]
    cases openFailure <;> rfl
  rw [← hfilter]
  cases hcs : causes p timeout openFailure sights with
  | nil => rfl
  | cons c cs =>
    rw [List.filter_cons_of_pos (h c (by rw [hcs]; rfl))]
    rfl

end EtcdClient
