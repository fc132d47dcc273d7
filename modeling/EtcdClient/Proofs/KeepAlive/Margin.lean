import EtcdClient.Proofs.KeepAlive.Cadence
import EtcdClient.Proofs.KeepAlive.Delivery
import Mathlib.Data.List.Induction

/-
# The margin of a heartbeat

A heartbeat follows the report of a time to live after half of that time and one second. Where the
two meet there is no margin left:

| time to live | delay | margin |
| --- | --- | --- |
| 1 s | 1 s | none |
| 2 s | 2 s | none |
| 3 s | 2 s | 1 s |
| `n` s from there on | `n / 2 + 1` s | at least 1 s |

`Run.reports` is the record of the responses for which a heartbeat was accepted, each with the time
of the clock, one report for each heartbeat (`steps_delays_eq`). A scheduler is on time if the clock
does not pass the moment at which a heartbeat is due before that has run (`Run.Punctual`). Then no
heartbeat is ever found late (`OnTime.steps`), so that it is sent while time to live is left:
`sent_before_expiry`.

Source: `SPEC_FULL.md` §4.1, the safety margin of a heartbeat, and §10.4, `heartbeat_delay`.
-/

namespace EtcdClient

/-- Half of a time to live and one second leave a margin from three seconds on. -/
theorem heartbeatDelay_lt {ttl : Int64} (h : 3 ≤ ttl) :
    heartbeatDelay ttl < .ofSeconds ttl.toInt.toNat := by
  have httl : (3 : Int) ≤ ttl.toInt := Int64.le_iff_toInt_le.1 h
  show (ttl.toInt.tdiv 2 + 1).toNat * 1000000000 < ttl.toInt.toNat * 1000000000
  rw [Int.tdiv_eq_ediv_of_nonneg (by omega)]
  omega

/-- The shortest times to live are waited out. -/
theorem heartbeatDelay_of_short {ttl : Int64} (h : ttl = 1 ∨ ttl = 2) :
    heartbeatDelay ttl = .ofSeconds ttl.toInt.toNat := by
  rcases h with rfl | rfl <;> rfl

namespace KeepAlive

/-- A time to live that was reported, and for which the scheduler took a heartbeat. -/
structure Report where
  response : KeepAliveResponse
  /-- When it was handled. -/
  time : Duration

namespace Report

/-- When the heartbeat is to run. -/
def due (p : Report) : Duration := p.time + heartbeatDelay p.response.ttl

/-- When the time to live has run out. -/
def expiry (p : Report) : Duration := p.time + .ofSeconds p.response.ttl.toInt.toNat

/-- From three seconds on half of the time to live, rounded down and at least a second, is less than
the whole. -/
theorem due_lt_expiry {p : Report} (h : 3 ≤ p.response.ttl) : p.due < p.expiry :=
  Nat.add_lt_add_left (heartbeatDelay_lt h) _

end Report

namespace Run

/-- The reports in a step, at the time when the step finds the clock. -/
def reportsIn (r : Run) (s : Step) : List Report :=
  ((r.handledIn s).filter Handled.accepted).map fun h => ⟨h.response, r.clock⟩

/-- The reports in the course of a script. -/
def reports (r : Run) (script : List Step) : List Report := observe step reportsIn r script

/-- The heartbeat that is due next has a number, follows a report, and has not run. -/
structure Outstanding (r : Run) (ps : List Report) (i : Nat) (p : Report) : Prop where
  scheduled_eq : r.session.scheduled = some i
  can_fire : r.session.scheduler.canFire i = true
  report_eq : ps[i]? = some p

/-- The scheduler is on time: the clock never passes the moment at which the next heartbeat is due
before that has run. -/
def Punctual (r : Run) (script : List Step) : Prop :=
  ∀ before d after, script = before ++ .advance d :: after →
    ∀ i p, (r.steps before).Outstanding (r.reports before) i p → (r.steps before).clock + d ≤ p.due

/-- One more step adds its own reports. -/
theorem reports_concat (r : Run) (script : List Step) (s : Step) :
    r.reports (script ++ [s]) = r.reports script ++ (r.steps script).reportsIn s := by
  rw [reports, observe_append, observe, observe, List.append_nil]
  rfl

/-- Before the first step nothing is late. -/
theorem punctual_nil (r : Run) : r.Punctual [] := by
  intro before d after hscript
  simp at hscript

/-- A script is on time step by step. -/
theorem punctual_concat_iff {r : Run} {script : List Step} {s : Step} :
    r.Punctual (script ++ [s]) ↔ r.Punctual script ∧
      ∀ d, s = .advance d → ∀ i p, (r.steps script).Outstanding (r.reports script) i p →
        (r.steps script).clock + d ≤ p.due := by
  constructor
  · intro h
    refine ⟨?_, ?_⟩
    · rintro before d after rfl
      exact h before d (after ++ [s]) (List.append_assoc ..)
    · rintro d rfl
      exact h script d [] rfl
  · rintro ⟨hscript, hlast⟩ before d after hsplit
    rcases List.eq_nil_or_concat after with rfl | ⟨after, t, rfl⟩
    · obtain ⟨rfl, hs⟩ := List.append_inj' hsplit rfl
      exact hlast d (List.singleton_inj.1 hs)
    · rw [List.concat_eq_append, ← List.cons_append, ← List.append_assoc] at hsplit
      exact hscript before d after (List.append_inj' hsplit rfl).1

/-! ### One heartbeat for each report -/

/-- A step schedules what its reports ask for. -/
theorem step_delays_eq (r : Run) (s : Step) :
    (r.step s).session.delays =
      r.session.delays ++ (r.reportsIn s).map fun p => heartbeatDelay p.response.ttl := by
  rw [step_delays, acceptedDelays, reportsIn, List.map_map]
  rfl

/-- So along a script the delays are those of the reports, in order. -/
theorem steps_delays_eq (r : Run) (script : List Step) :
    (r.steps script).session.delays =
      r.session.delays ++ (r.reports script).map fun p => heartbeatDelay p.response.ttl :=
  foldl_eq_append_observe (fun r : Run => r.session.delays) (fun _ => True) (fun _ _ h => h) rfl
    (fun _ _ => List.map_append) (fun r s _ => r.step_delays_eq s) trivial script

/-! ### No heartbeat is late -/

/-- What is reported takes no time. -/
theorem step_clock_of_reports {r : Run} {s : Step} (h : r.reportsIn s ≠ []) :
    (r.step s).clock = r.clock := by
  cases s with
  | arrive items => exact r.step_clock _
  | _ => exact absurd rfl h

/-- What holds of a run with its reports, if the scheduler is on time. -/
structure OnTime (r : Run) (ps : List Report) : Prop where
  valid : r.session.Valid
  delays_eq : r.session.delays = ps.map fun p => heartbeatDelay p.response.ttl
  clock_le : ∀ i p, r.Outstanding ps i p → r.clock ≤ p.due

namespace OnTime

variable {r : Run} {ps : List Report}

/-- A heartbeat that is outstanding after a step without a report was so before. -/
theorem outstanding_of_step (h : r.OnTime ps) {s : Step} (hquiet : r.reportsIn s = []) {i : Nat}
    {p : Report} (hnext : (r.step s).Outstanding ps i p) : r.Outstanding ps i p := by
  have hvalid := h.valid.reaches (r.step_reaches s)
  obtain ⟨hopen, hlast⟩ := (hvalid.scheduled_iff i).1 hnext.scheduled_eq
  have hlength : (r.step s).session.scheduler.heartbeats.length =
      r.session.scheduler.heartbeats.length := by
    have hdelays := congrArg List.length (r.step_delays_eq s)
    rw [hquiet, List.map_nil, List.append_nil] at hdelays
    rwa [Session.delays, Session.delays, List.length_map, List.length_map] at hdelays
  have hwasOpen := (r.step_reaches s).opened h.valid hopen
  refine ⟨(h.valid.scheduled_iff i).2 ⟨hwasOpen, by omega⟩, ?_, hnext.report_eq⟩
  -- A firing is not taken back, so what can still run now could run before.
  cases hcan : r.session.scheduler.canFire i with
  | true => rfl
  | false =>
    obtain ⟨b, hb⟩ : ∃ b, r.session.scheduler.heartbeats[i]? = some b :=
      ⟨_, List.getElem?_eq_getElem (by omega)⟩
    have hfired : r.session.scheduler.Fired i := by
      refine ⟨b, hb, ?_⟩
      simpa [Scheduler.canFire, hb] using hcan
    have hcannot := ((r.step_reaches s).fired hfired).not_canFire
    rw [hnext.can_fire] at hcannot
    exact absurd hcannot (by decide)

/-- **A step on time keeps every heartbeat on time.** -/
theorem step (h : r.OnTime ps) (s : Step)
    (htime : ∀ d, s = .advance d → ∀ i p, r.Outstanding ps i p → r.clock + d ≤ p.due) :
    (r.step s).OnTime (ps ++ r.reportsIn s) := by
  have hvalid := h.valid.reaches (r.step_reaches s)
  have hdelays : (r.step s).session.delays =
      (ps ++ r.reportsIn s).map fun p => heartbeatDelay p.response.ttl := by
    rw [step_delays_eq, h.delays_eq, List.map_append]
  refine ⟨hvalid, hdelays, fun i p hnext => ?_⟩
  by_cases hquiet : r.reportsIn s = []
  -- Without a report the same heartbeat is outstanding as before, and only an advance moves the
  -- clock.
  · rw [hquiet, List.append_nil] at hnext
    have hbefore := h.outstanding_of_step hquiet hnext
    have hclock := h.clock_le i p hbefore
    rw [step_clock]
    cases s with
    | advance d => exact htime d rfl i p hbefore
    | _ => exact hclock
  · -- The heartbeat that is due next is the last one, so it follows a report of this step.
    obtain ⟨-, hlast⟩ := (hvalid.scheduled_iff i).1 hnext.scheduled_eq
    have hlength := congrArg List.length hdelays
    rw [Session.delays, List.length_map, List.length_map, List.length_append] at hlength
    have hpos := List.length_pos_iff.2 hquiet
    have hp := hnext.report_eq
    rw [List.getElem?_append_right (by omega)] at hp
    obtain ⟨handled, -, rfl⟩ := List.mem_map.1 (List.mem_of_getElem? hp)
    rw [step_clock_of_reports hquiet]
    exact Nat.le_add_right _ _

/-- So no script makes one late. -/
theorem steps (h : r.OnTime []) {script : List Step} (hscript : r.Punctual script) :
    (r.steps script).OnTime (r.reports script) := by
  -- From the end of the script: to be punctual is a condition on each step after those before it.
  induction script using List.reverseRecOn with
  | nil => exact h
  | append_singleton script s ih =>
    obtain ⟨hbefore, hlast⟩ := punctual_concat_iff.1 hscript
    rw [steps_concat, reports_concat]
    exact (ih hbefore).step s hlast

end OnTime

/-- Every run begins on time, as nothing is due. -/
theorem onTime_begin (lease : Int64) (down refusing : Bool) (timeout : Option Duration)
    (handler : Option Behaviour) (openFailure : Option Status) :
    (begin lease { down, refusing } timeout handler openFailure).OnTime [] :=
  ⟨valid_begin lease down refusing timeout handler openFailure,
    begin_delays lease down refusing timeout handler openFailure,
    fun i _ h => absurd h.report_eq (by simp)⟩

/-- **From three seconds on a heartbeat is sent before the lease runs out.** Each heartbeat that was
accepted follows the report of a time to live, and its delay is shorter than that time if it is
three seconds or more, and just as long if it is one second or two. If the scheduler is on time,
then a heartbeat that is due and has not run finds time to live left, and when it runs a request is
sent, provided that the server reads and the session is still held. -/
theorem sent_before_expiry (lease : Int64) (down refusing : Bool) (timeout : Option Duration)
    (handler : Option Behaviour) (openFailure : Option Status) (script : List Step) :
    let start := begin lease { down, refusing } timeout handler openFailure
    let r := start.steps script
    let beats := r.session.scheduler.heartbeats
    let reports := start.reports script
    beats.length = reports.length ∧
      (∀ (i : Nat) (p : Report) (b : Heartbeat), reports[i]? = some p → beats[i]? = some b →
        (3 ≤ p.response.ttl → b.delay < .ofSeconds p.response.ttl.toInt.toNat) ∧
        (p.response.ttl = 1 ∨ p.response.ttl = 2 →
          b.delay = .ofSeconds p.response.ttl.toInt.toNat)) ∧
      (start.Punctual script → ∀ i p, r.Outstanding reports i p → 3 ≤ p.response.ttl →
        r.clock < p.expiry ∧
          (r.session.listening = true → r.released = false →
            (r.step (.fire i)).session.requests =
              r.session.requests ++ [.leaseKeepAlive lease])) := by
  intro start r beats reports
  have hbegin : start.OnTime [] := onTime_begin lease down refusing timeout handler openFailure
  have hvalid : r.session.Valid := valid_steps hbegin.valid script
  -- The heartbeats and the reports are lists side by side, by their delays.
  have hdelays : beats.map Heartbeat.delay =
      reports.map fun p => heartbeatDelay p.response.ttl := by
    have h := start.steps_delays_eq script
    rwa [hbegin.delays_eq] at h
  refine ⟨?_, fun i p b hp hb => ?_, fun hpunctual i p hnext hlong => ⟨?_, fun hreads hheld => ?_⟩⟩
  · have hlength := congrArg List.length hdelays
    rwa [List.length_map, List.length_map] at hlength
  · have hdelay : b.delay = heartbeatDelay p.response.ttl := by
      have hget := congrArg (fun delays => delays[i]?) hdelays
      simp only [List.getElem?_map, hp, hb, Option.map_some] at hget
      exact Option.some.inj hget
    rw [hdelay]
    exact ⟨heartbeatDelay_lt, heartbeatDelay_of_short⟩
  · exact Nat.lt_of_le_of_lt ((hbegin.steps hpunctual).clock_le i p hnext)
      (Report.due_lt_expiry hlong)
  -- A heartbeat that is due belongs to an open session, so its firing is heard.
  · have hopen : r.session.closed = false := ((hvalid.scheduled_iff i).1 hnext.scheduled_eq).1
    have hlease : r.session.lease = lease :=
      ((Heard.fresh lease { down, refusing } timeout handler openFailure).steps script).lease_eq
    have hheard : (r.held || r.receiving) = true := by
      cases hh : r.held <;> cases hr : r.receiving <;> simp [released, hh, hr] at hheld ⊢
    have hfiring : r.firing (.fire i) = [⟨i, true⟩] := by
      simp [firing, hnext.can_fire, hreads, hopen, hheard]
    rw [step_requests hvalid, hfiring, hlease]
    rfl

/-- A time to live of three seconds, reported after the start took one second, is left for another
second when the heartbeat is due. -/
theorem sent_before_expiry_of_three_seconds :
    let start := begin 7 {} none none none
    let script : List Step := [.advance (.ofSeconds 1),
      .arrive [.response { id := 7, ttl := 3 }], .advance (.ofSeconds 2)]
    let r := start.steps script
    let p : Report := ⟨{ id := 7, ttl := 3 }, .ofSeconds 1⟩
    start.Punctual script ∧ r.Outstanding (start.reports script) 0 p ∧
      r.clock = .ofSeconds 3 ∧ p.expiry = .ofSeconds 4 ∧ r.clock < p.expiry ∧
        (r.step (.fire 0)).session.requests = [.leaseKeepAlive 7, .leaseKeepAlive 7] := by
  intro start script r p
  have hreport : (start.reports script)[0]? = some p := by
    dsimp only [start, script, p]
    rfl
  have hclock : r.clock = .ofSeconds 3 := by
    dsimp only [r, start, script]
    rfl
  have hfirst : start.Punctual ([] ++ [.advance (.ofSeconds 1)]) :=
    punctual_concat_iff.2 ⟨start.punctual_nil, fun d _ i q hnext =>
      absurd hnext.scheduled_eq nofun⟩
  have hsecond : start.Punctual
      ([.advance (.ofSeconds 1)] ++ [.arrive [.response { id := 7, ttl := 3 }]]) :=
    punctual_concat_iff.2 ⟨hfirst, nofun⟩
  have hpunctual : start.Punctual script := by
    show start.Punctual ([_, _] ++ [_])
    refine punctual_concat_iff.2 ⟨hsecond, fun d hd i q hnext => ?_⟩
    cases hd
    obtain rfl : 0 = i := Option.some.inj hnext.scheduled_eq
    obtain rfl : p = q := Option.some.inj (hreport.symm.trans hnext.report_eq)
    decide
  have hnext : r.Outstanding (start.reports script) 0 p := ⟨rfl, rfl, hreport⟩
  obtain ⟨-, -, htime⟩ := sent_before_expiry 7 false false none none none script
  obtain ⟨hleft, hsent⟩ := htime hpunctual 0 p hnext (by decide)
  exact ⟨hpunctual, hnext, hclock, by decide, hleft, hsent rfl rfl⟩

/-- **The shortest times to live have no margin.** It is not so that a heartbeat is always due
before the time to live has run out: for two seconds both end at once. -/
theorem short_ttl_without_margin :
    ¬ ∀ (lease : Int64) (down refusing : Bool) (timeout : Option Duration)
      (handler : Option Behaviour) (openFailure : Option Status) (script : List Step) (i : Nat)
      (p : Report) (b : Heartbeat),
      let start := begin lease { down, refusing } timeout handler openFailure
      (start.reports script)[i]? = some p →
        (start.steps script).session.scheduler.heartbeats[i]? = some b →
          0 < p.response.ttl → b.delay < .ofSeconds p.response.ttl.toInt.toNat := by
  intro h
  have hshorter := h 7 false false none none none [.arrive [.response { id := 7, ttl := 2 }]] 0
    ⟨{ id := 7, ttl := 2 }, ⟨0⟩⟩ { delay := .ofSeconds 2 } rfl rfl (by decide)
  exact absurd hshorter (by decide)

end Run
end KeepAlive
end EtcdClient
