import EtcdClient.KeepAlive.Session

/-
# A keep-alive session under every order of operations

Timers, the receiving task, callers and the surroundings of the scheduler act on one session, each
at once and in any order. `Operation` lists what they do and `Session.run` does a list of it. The
receiving task looks whether the session is open and rearms it later, so a close can fall between:
that is a `rearm` on a closed session.

`Session.Valid` is what every order leaves true:

| part | rule |
| --- | --- |
| sending side | open as long as the session is |
| scheduler | shut down once the session is closed |
| due heartbeat | the last one accepted, none once the session is closed |
| other heartbeats | cancelled |

`Valid.run` derives it from one lemma for each operation. A closed session then turns everything
away (`run_of_closed`), and `closed_is_final` puts both together.

Source: `SPEC_FULL.md` §3, the invariant of both sessions: once `closed` is true, no further
scheduled action may run.
-/

namespace EtcdClient

/-- What no change of a heartbeat touches is the same for all heartbeats. -/
theorem Scheduler.map_modify {β : Type} {f : Heartbeat → β} {g : Heartbeat → Heartbeat}
    (h : ∀ b, f (g b) = f b) (beats : List Heartbeat) (i : Nat) :
    (beats.modify i g).map f = beats.map f := by
  refine List.ext_getElem? fun j => ?_
  simp only [List.getElem?_map, List.getElem?_modify]
  cases beats[j]? with
  | none => rfl
  | some b => by_cases hij : i = j <;> simp [hij, h]

namespace KeepAlive

/-- What is done to a session at once. -/
inductive Operation
  /-- A timer fires, whether its heartbeat was cancelled or not, or the start sends the first. -/
  | beat
  | rearm (ttl : Int64)
  /-- The receiving task is handed a response and lets nobody in before it has rearmed. -/
  | deliver (response : KeepAliveResponse)
  | close
  /-- The scheduler notes that a heartbeat ran. -/
  | markFired (i : Nat)
  | shutdownScheduler
  /-- The scheduler begins or ends to turn heartbeats away. -/
  | refuse (b : Bool)
  /-- The server stops reading. -/
  | hangUp

namespace Session

/-- A response moves the next heartbeat of an open session. -/
def deliver (s : Session) (response : KeepAliveResponse) : Session :=
  if s.closed then s else (s.rearm response.ttl).2

/-- The session after one operation. -/
def perform (s : Session) : Operation → Session
  | .beat => s.beat
  | .rearm ttl => (s.rearm ttl).2
  | .deliver response => s.deliver response
  | .close => s.close
  | .markFired i => { s with scheduler := s.scheduler.markFired i }
  | .shutdownScheduler => { s with scheduler := s.scheduler.shutdown }
  | .refuse b => { s with scheduler := { s.scheduler with refusing := b } }
  | .hangUp => { s with listening := false }

/-- The session after a list of operations. -/
def run (s : Session) (ops : List Operation) : Session := ops.foldl perform s

/-- The first operation of a list is performed first. -/
@[simp] theorem run_cons (s : Session) (op : Operation) (ops : List Operation) :
    s.run (op :: ops) = (s.perform op).run ops := rfl

/-- A list of operations may be performed in two parts. -/
theorem run_append (s : Session) (first second : List Operation) :
    s.run (first ++ second) = (s.run first).run second := by
  simp [run, List.foldl_append]

/-! ### What each operation does to the heartbeats -/

/-- The next heartbeat comes last, and the one that was due is cancelled. -/
theorem replaceHeartbeat_getElem? (s : Session) (delay : Duration) (i : Nat) :
    (s.replaceHeartbeat delay).heartbeats[i]? =
      (s.scheduler.push delay).heartbeats[i]?.map fun b =>
        if s.scheduled = some i then { b with cancelled := true } else b := by
  unfold replaceHeartbeat
  cases s.scheduled with
  | none => simp
  | some j => simp [Scheduler.cancel, List.getElem?_modify]

/-- Of a session that closes, the heartbeat that was due is cancelled. -/
theorem stopHeartbeats_getElem? (s : Session) (i : Nat) :
    s.stopHeartbeats.heartbeats[i]? =
      s.scheduler.heartbeats[i]?.map fun b =>
        if s.scheduled = some i then { b with cancelled := true } else b := by
  unfold stopHeartbeats
  cases s.scheduled with
  | none => simp [Scheduler.shutdown]
  | some j => simp [Scheduler.shutdown, Scheduler.cancel, List.getElem?_modify]

/-- A new heartbeat adds one to the list; the one it replaces stays there, cancelled. -/
@[simp] theorem replaceHeartbeat_length (s : Session) (delay : Duration) :
    (s.replaceHeartbeat delay).heartbeats.length = s.scheduler.heartbeats.length + 1 := by
  unfold replaceHeartbeat
  split <;> simp [Scheduler.push, Scheduler.cancel]

/-- Once heartbeats are stopped the scheduler takes no more of them. -/
@[simp] theorem stopHeartbeats_down (s : Session) : s.stopHeartbeats.down = true := by
  unfold stopHeartbeats
  split <;> rfl

/-- Closing a second time does nothing. -/
theorem close_of_closed {s : Session} (h : s.closed = true) : s.close = s := by
  rw [close, if_pos h]

/-- A scheduler that accepts makes a new heartbeat the one that is due and cancels the one
before. -/
theorem rearm_of_accepts {s : Session} (h : s.scheduler.accepts = true) (ttl : Int64) :
    s.rearm ttl = (.ok (), { s with
      scheduler := s.replaceHeartbeat (heartbeatDelay ttl)
      scheduled := some s.scheduler.heartbeats.length }) := by
  rw [rearm, if_pos h]

/-- A refusal leaves the session as it is. -/
theorem rearm_of_refuses {s : Session} (h : s.scheduler.accepts = false) (ttl : Int64) :
    (s.rearm ttl).2 = s := by
  rw [rearm, if_neg (by simp [h])]
  split <;> rfl

/-! ### The invariant -/

/-- What holds of a session whatever was done to it. -/
structure Valid (s : Session) : Prop where
  sending_eq : s.sending = !s.closed
  down_of_closed : s.closed = true → s.scheduler.down = true
  /-- The heartbeat that is due is the last one, while the session is open. -/
  scheduled_iff : ∀ i, s.scheduled = some i ↔
    s.closed = false ∧ i + 1 = s.scheduler.heartbeats.length
  /-- It is the only one that is not cancelled. -/
  cancelled_iff : ∀ i b, s.scheduler.heartbeats[i]? = some b →
    (b.cancelled = false ↔ s.scheduled = some i)

/-- A session that was just opened, whatever its scheduler is ready to do. -/
theorem valid_fresh (lease : Int64) (down refusing : Bool) :
    Valid { lease, scheduler := { down, refusing } } where
  sending_eq := rfl
  down_of_closed := by simp
  scheduled_iff := by simp
  cancelled_iff := by simp

namespace Valid

variable {s : Session}

/-- Nothing is due in a closed session. -/
theorem scheduled_of_closed (h : s.Valid) (hc : s.closed = true) : s.scheduled = none := by
  rw [Option.eq_none_iff_forall_ne_some]
  intro i hi
  have hopen := ((h.scheduled_iff i).1 hi).1
  rw [hc] at hopen
  exact Bool.false_ne_true hopen.symm

/-- So all its heartbeats are cancelled. -/
theorem cancelled_of_closed (h : s.Valid) (hc : s.closed = true) :
    ∀ b ∈ s.scheduler.heartbeats, b.cancelled = true := by
  intro b hb
  obtain ⟨i, hi⟩ := List.getElem?_of_mem hb
  have hlive := h.cancelled_iff i b hi
  rw [h.scheduled_of_closed hc] at hlive
  simpa using hlive

/-- A scheduler that still accepts belongs to an open session. -/
theorem open_of_accepts (h : s.Valid) (ha : s.scheduler.accepts = true) : s.closed = false := by
  cases hc : s.closed with
  | false => rfl
  | true =>
    have hdown := h.down_of_closed hc
    simp [Scheduler.accepts, hdown] at ha

/-- And no further heartbeat is accepted. -/
theorem refuses_of_closed (h : s.Valid) (hc : s.closed = true) : s.scheduler.accepts = false := by
  simp [Scheduler.accepts, h.down_of_closed hc]

/-- The invariant reads the flags, the due heartbeat and what is cancelled, nothing else. -/
theorem congr (h : s.Valid) {t : Session} (hclosed : t.closed = s.closed)
    (hsending : t.sending = s.sending) (hdown : s.scheduler.down = true → t.scheduler.down = true)
    (hscheduled : t.scheduled = s.scheduled)
    (hbeats : t.scheduler.heartbeats.map Heartbeat.cancelled =
      s.scheduler.heartbeats.map Heartbeat.cancelled) : t.Valid where
  sending_eq := by rw [hsending, hclosed, h.sending_eq]
  down_of_closed hc := hdown (h.down_of_closed (hclosed ▸ hc))
  scheduled_iff i := by
    have hlength := congrArg List.length hbeats
    simp only [List.length_map] at hlength
    rw [hscheduled, hclosed, hlength, h.scheduled_iff]
  cancelled_iff i b hb := by
    have hget := congrArg (fun flags => flags[i]?) hbeats
    simp only [List.getElem?_map, hb, Option.map_some] at hget
    obtain ⟨c, hc, hflag⟩ := Option.map_eq_some_iff.1 hget.symm
    rw [hscheduled, ← hflag]
    exact h.cancelled_iff i c hc

/-- A heartbeat that fires sends a request at most, which no part of the invariant is about. -/
theorem beat (h : s.Valid) : s.beat.Valid := by
  unfold Session.beat
  split
  · exact h
  · exact h.congr rfl rfl id rfl rfl

/-- A response that is accepted leaves exactly the new heartbeat live, and one that is refused
leaves the session as it is. -/
theorem rearm (h : s.Valid) (ttl : Int64) : (s.rearm ttl).2.Valid := by
  cases ha : s.scheduler.accepts with
  | false => rwa [rearm_of_refuses ha]
  | true =>
    have hopen := h.open_of_accepts ha
    rw [rearm_of_accepts ha]
    refine ⟨h.sending_eq, fun hc => absurd hc (by simp [hopen]), fun i => ?_, fun i b hb => ?_⟩
    · simp only [replaceHeartbeat_length, Option.some.injEq, hopen, true_and]
      omega
    · simp only [replaceHeartbeat_getElem?] at hb
      obtain ⟨c, hc, rfl⟩ := Option.map_eq_some_iff.1 hb
      -- The heartbeat is one of the earlier ones or the new one at the end.
      rw [Scheduler.push, List.getElem?_append] at hc
      split at hc
      · next hi =>
        have hlive := h.cancelled_iff i c hc
        have hne : s.scheduler.heartbeats.length ≠ i := by omega
        by_cases hs : s.scheduled = some i
        · simp [hs, hne]
        · have hcancelled : c.cancelled = true := by simpa [hs] using hlive
          simp [hs, hne, hcancelled]
      · next hi =>
        obtain ⟨hlt, rfl⟩ := List.getElem?_eq_some_iff.1 hc
        simp only [List.length_singleton] at hlt
        have hend : s.scheduler.heartbeats.length = i := by omega
        have hs : s.scheduled ≠ some i := by
          intro hs
          have := ((h.scheduled_iff i).1 hs).2
          omega
        simp [hs, hend]

/-- Handling a response is a rearm, so it keeps the invariant with it. -/
theorem deliver (h : s.Valid) (response : KeepAliveResponse) : (s.deliver response).Valid := by
  unfold Session.deliver
  split
  · exact h
  · exact h.rearm response.ttl

/-- A close cancels the only heartbeat that was live. -/
theorem close (h : s.Valid) : s.close.Valid := by
  unfold Session.close
  split
  · exact h
  · refine ⟨rfl, fun _ => stopHeartbeats_down s, by simp, fun i b hb => ?_⟩
    simp only [stopHeartbeats_getElem?] at hb
    obtain ⟨c, hc, rfl⟩ := Option.map_eq_some_iff.1 hb
    have hlive := h.cancelled_iff i c hc
    by_cases hs : s.scheduled = some i
    · simp [hs]
    · have hcancelled : c.cancelled = true := by simpa [hs] using hlive
      simp [hs, hcancelled]

/-- To mark a heartbeat as fired changes neither the number of heartbeats nor which of them is
cancelled. -/
theorem markFired (h : s.Valid) (i : Nat) :
    Valid { s with scheduler := s.scheduler.markFired i } :=
  h.congr rfl rfl id rfl (Scheduler.map_modify (fun _ => by rfl) _ i)

/-- **No operation breaks the invariant.** -/
theorem perform (h : s.Valid) (op : Operation) : (s.perform op).Valid := by
  cases op with
  | beat => exact h.beat
  | rearm ttl => exact h.rearm ttl
  | deliver response => exact h.deliver response
  | close => exact h.close
  | markFired i => exact h.markFired i
  | shutdownScheduler => exact h.congr rfl rfl (fun _ => rfl) rfl rfl
  | refuse b => exact h.congr rfl rfl id rfl rfl
  | hangUp => exact h.congr rfl rfl id rfl rfl

/-- Nor does any order of operations. -/
theorem run (h : s.Valid) (ops : List Operation) : (s.run ops).Valid := by
  induction ops generalizing s with
  | nil => exact h
  | cons op ops ih => exact ih (h.perform op)

end Valid

/-! ### A closed session -/

/-- Nothing that is done to a closed session sends, schedules or opens it again. -/
theorem perform_of_closed {s : Session} (h : s.Valid) (hc : s.closed = true) (op : Operation) :
    (s.perform op).closed = true ∧ (s.perform op).requests = s.requests ∧
      (s.perform op).scheduler.heartbeats.length = s.scheduler.heartbeats.length := by
  cases op with
  | beat => simp [perform, beat, hc]
  | rearm ttl =>
    have hsame := rearm_of_refuses (h.refuses_of_closed hc) ttl
    simp [perform, hsame, hc]
  | deliver response => simp [perform, deliver, hc]
  | close => simp [perform, close_of_closed hc, hc]
  | markFired i => simp [perform, Scheduler.markFired, hc]
  | shutdownScheduler => simp [perform, Scheduler.shutdown, hc]
  | refuse b => simp [perform, hc]
  | hangUp => simp [perform, hc]

/-- A closed session stays closed, sends nothing and schedules nothing, by induction over the
operations. -/
theorem run_of_closed {s : Session} (h : s.Valid) (hc : s.closed = true) (ops : List Operation) :
    (s.run ops).closed = true ∧ (s.run ops).requests = s.requests ∧
      (s.run ops).scheduler.heartbeats.length = s.scheduler.heartbeats.length := by
  induction ops generalizing s with
  | nil => exact ⟨hc, rfl, rfl⟩
  | cons op ops ih =>
    obtain ⟨hclosed, hrequests, hlength⟩ := perform_of_closed h hc op
    obtain ⟨hclosed', hrequests', hlength'⟩ := ih (h.perform op) hclosed
    exact ⟨hclosed', hrequests'.trans hrequests, hlength'.trans hlength⟩

/-- **Closing is final.** Whatever was done to a session before it was found closed, its sending
side is gone, its scheduler is shut down and every heartbeat that was ever accepted is cancelled.
Whatever is done to it later, no request is sent, no heartbeat is accepted, the session stays
closed, and to close it again changes nothing. -/
theorem closed_is_final (lease : Int64) (down refusing : Bool) (before later : List Operation)
    (hclosed : (run { lease, scheduler := { down, refusing } } before).closed = true) :
    let s := run { lease, scheduler := { down, refusing } } before
    let t := s.run later
    (s.scheduled = none ∧ s.sending = false ∧ s.scheduler.down = true ∧
      ∀ b ∈ s.scheduler.heartbeats, b.cancelled = true) ∧
    t.closed = true ∧ t.requests = s.requests ∧
      t.scheduler.heartbeats.length = s.scheduler.heartbeats.length ∧ t.close = t := by
  intro s t
  have hvalid : s.Valid := (valid_fresh lease down refusing).run before
  obtain ⟨hstays, hrequests, hlength⟩ := run_of_closed hvalid hclosed later
  have hsending : s.sending = false := by rw [hvalid.sending_eq, hclosed]; rfl
  exact ⟨⟨hvalid.scheduled_of_closed hclosed, hsending, hvalid.down_of_closed hclosed,
    hvalid.cancelled_of_closed hclosed⟩, hstays, hrequests, hlength, close_of_closed hstays⟩

/-- A close that falls between two responses, and a response that was already on its way. -/
theorem closed_is_final_between_responses :
    let s := run { lease := 7, scheduler := {} } [.beat, .rearm 10, .rearm 3, .close]
    let t := s.run [.rearm 60, .beat, .close]
    s.closed = true ∧
    (s.scheduled = none ∧ s.sending = false ∧ s.scheduler.down = true ∧
      ∀ b ∈ s.scheduler.heartbeats, b.cancelled = true) ∧
    t.closed = true ∧ t.requests = s.requests ∧
      t.scheduler.heartbeats.length = s.scheduler.heartbeats.length ∧ t.close = t :=
  ⟨rfl, closed_is_final 7 false false [.beat, .rearm 10, .rearm 3, .close]
    [.rearm 60, .beat, .close] rfl⟩

end Session
end KeepAlive
end EtcdClient
