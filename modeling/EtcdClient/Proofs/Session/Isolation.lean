import EtcdClient.Proofs.KeepAlive.Isolation
import EtcdClient.Proofs.Watch.Isolation

/-
# What cannot disturb a session

Handlers are run apart from the session: a panic is caught and logged, and nothing else comes of it
as long as the value that was thrown is dropped quietly. Nor does anything come of a request that
the server does not read. So two runs that differ in this alone are equal but for

| what differs | what it changes |
| --- | --- |
| what the handler does, short of a close | the log |
| that there is a handler (keep-alive) | the log and the calls |
| that the server stops reading | the requests that it reads from then on |

The value is dropped behind the place where panics are caught. One that panics when it is dropped
ends the receiving task, and with it everything that was still to come
(`disturbed_by_panic_on_drop`). What the handler was told is then the beginning of what it would
have been told.

Source: `SPEC_FULL.md` §4.3, §7 and §10.4: a panicking handler is logged and the receive loop
continues.
-/

namespace EtcdClient

/-- **Neither a handler nor a deaf server disturbs a session.** Take two scripts that differ only in
what they set the handlers to, and handlers that panic at any of their calls, with anything, of
which none closes the session. If all that is thrown is dropped quietly, the runs agree in the
session, that is in the requests, in each heartbeat with its delay and whether it is cancelled, in
whether it is closed and in the number of the watch; they agree in how the start went, and in what
the handlers were told. If that holds of one of them, the other is told a beginning of the same. A
script in which the server stops reading at some point ends as it would otherwise, but with the
requests that were read up to there. -/
theorem undisturbed_by_handler_or_deaf_server (timeout : Option Duration)
    (openFailure : Option Status) (t₁ t₂ : Throws) :
    (∀ (lease : Int64) (scheduler : Scheduler),
      let start handler := KeepAlive.Run.begin lease scheduler timeout handler openFailure
      (∀ (handler₁ handler₂ : Option Behaviour) (script₁ script₂ : List KeepAlive.Step),
        handler₁ ≠ some .close → handler₂ ≠ some .close →
        .setHandler .close ∉ script₁ → .setHandler .close ∉ script₂ →
        KeepAlive.outward script₁ = KeepAlive.outward script₂ → t₂.Quiet →
        let r₁ := (start handler₁).stepsThrowing t₁ script₁
        let r₂ := (start handler₂).stepsThrowing t₂ script₂
        (t₁.Quiet → r₁.session = r₂.session ∧ r₁.start = r₂.start ∧ r₁.receiving = r₂.receiving ∧
          r₁.held = r₂.held ∧
          (handler₁.isSome = handler₂.isSome → r₁.callbacks = r₂.callbacks)) ∧
        (handler₁.isSome = handler₂.isSome → r₁.callbacks <+: r₂.callbacks)) ∧
      ∀ (handler : Option Behaviour) (before after : List KeepAlive.Step),
        let r := (start handler).stepsThrowing t₁ (before ++ .hangUp :: after)
        let q := (start handler).stepsThrowing t₁ (before ++ after)
        let read := ((start handler).stepsThrowing t₁ before).session.requests
        r = { q with session := { q.session with listening := false, requests := read } }) ∧
    ∀ create : WatchCreateRequest,
      let start handler := Watch.Run.begin create timeout handler openFailure
      (∀ (handler₁ handler₂ : Behaviour) (script₁ script₂ : List Watch.Step),
        handler₁ ≠ .close → handler₂ ≠ .close →
        .setHandler .close ∉ script₁ → .setHandler .close ∉ script₂ →
        Watch.outward script₁ = Watch.outward script₂ → t₂.Quiet →
        let r₁ := (start handler₁).stepsThrowing t₁ script₁
        let r₂ := (start handler₂).stepsThrowing t₂ script₂
        (t₁.Quiet → r₁.session = r₂.session ∧ r₁.start = r₂.start ∧ r₁.receiving = r₂.receiving ∧
          r₁.held = r₂.held ∧ r₁.callbacks = r₂.callbacks) ∧
        r₁.callbacks <+: r₂.callbacks) ∧
      ∀ (handler : Behaviour) (before after : List Watch.Step),
        let r := (start handler).stepsThrowing t₁ (before ++ .hangUp :: after)
        let q := (start handler).stepsThrowing t₁ (before ++ after)
        let read := ((start handler).stepsThrowing t₁ before).session.requests
        r = { q with session := { q.session with listening := false, requests := read } } := by
  refine ⟨fun lease scheduler => ⟨?_, ?_⟩, fun create => ⟨?_, ?_⟩⟩
  · intro handler₁ handler₂ script₁ script₂ hhandler₁ hhandler₂ hscript₁ hscript₂ hsame ht₂ r₁ r₂
    -- What is caught of the panics disturbs nothing, so the runs that catch all are compared.
    have hr₂ : r₂ = _ := KeepAlive.Run.stepsThrowing_of_quiet ht₂ _ script₂
    obtain ⟨hapart, hcallbacks⟩ := KeepAlive.Run.stepsLapsing_congr lease scheduler timeout
      openFailure t₁.lapses t₂.lapses hhandler₁ hhandler₂ hscript₁ hscript₂ hsame
    rw [← hr₂] at hapart hcallbacks
    refine ⟨fun ht₁ => ?_, fun hsome => ?_⟩
    · have hr₁ : r₁ = _ := KeepAlive.Run.stepsThrowing_of_quiet ht₁ _ script₁
      rw [← hr₁] at hapart hcallbacks
      have hfield {γ : Type} (f : KeepAlive.Run → γ) : f r₁.apart = f r₂.apart := congrArg f hapart
      exact ⟨hfield (·.session), hfield (·.start), hfield (·.receiving), hfield (·.held),
        hcallbacks⟩
    · rw [← hcallbacks hsome]
      exact KeepAlive.Run.stepsThrowing_callbacks_prefix t₁ _ script₁
  · intro handler before after
    exact KeepAlive.Run.stepsThrowing_hangUp
      (KeepAlive.Run.begin_idle lease scheduler timeout handler openFailure) t₁ before after
  · intro handler₁ handler₂ script₁ script₂ hhandler₁ hhandler₂ hscript₁ hscript₂ hsame ht₂ r₁ r₂
    have hr₂ : r₂ = _ := Watch.Run.stepsThrowing_of_quiet ht₂ _ script₂
    have hapart := Watch.Run.stepsLapsing_congr create timeout openFailure t₁.lapses t₂.lapses
      hhandler₁ hhandler₂ hscript₁ hscript₂ hsame
    rw [← hr₂] at hapart
    refine ⟨fun ht₁ => ?_, ?_⟩
    · have hr₁ : r₁ = _ := Watch.Run.stepsThrowing_of_quiet ht₁ _ script₁
      rw [← hr₁] at hapart
      have hfield {γ : Type} (f : Watch.Run → γ) : f r₁.apart = f r₂.apart := congrArg f hapart
      exact ⟨hfield (·.session), hfield (·.start), hfield (·.receiving), hfield (·.held),
        hfield (·.callbacks)⟩
    · have hcallbacks : _ = r₂.callbacks := congrArg (·.callbacks) hapart
      rw [← hcallbacks]
      exact Watch.Run.stepsThrowing_callbacks_prefix t₁ _ script₁
  · intro handler before after
    exact Watch.Run.stepsThrowing_hangUp
      (Watch.Run.begin_idle create timeout handler openFailure) t₁ before after

/-- A handler of a lease that panics at its second call and when it is set to, and none; a handler
of a watch that always panics, and one that throws a value that panics when it is dropped. -/
theorem undisturbed_by_panics :
    let responses : KeepAlive.Step := .arrive [.response { id := 7, ttl := 10 },
      .response { id := 7, ttl := 8 }]
    let failure : KeepAlive.Step := .arrive [.failure { code := .unavailable, message := "gone" }]
    let second : Throws := fun n => if n = 1 then some { payload := .other } else none
    let loud : Throws := fun n =>
      if n = 0 then some { payload := .other, panicsOnDrop := true } else none
    let r := (KeepAlive.Run.begin 7 {} none (some .record) none).stepsThrowing second
      [responses, .setHandler (.panic (.text "again")), .fire 1, failure]
    let q := (KeepAlive.Run.begin 7 {} none none none).steps [responses, .fire 1, failure]
    let create := ({} : WatchOptions).request [97]
    let script : List Watch.Step := [.arrive [.response { watchId := 42, created := true }], .close]
    let w := (Watch.Run.begin create none (.panic (.literal "boom")) none).steps script
    let v := (Watch.Run.begin create none .record none).steps script
    let u := (Watch.Run.begin create none .record none).stepsThrowing loud script
    (r.session = q.session ∧ r.callbacks.length = 3 ∧ r.session.requests.length = 2 ∧
        r.log = [.panicked .keepAliveResponse .other,
          .keepAliveFailed 7 (.grpc { code := .unavailable, message := "gone" }),
          .panicked .keepAliveError (.text "again")]) ∧
      (w.session = v.session ∧ w.callbacks = v.callbacks ∧
        w.session.requests = [.watchCreate create, .watchCancel 42] ∧
        w.log = [.panicked .watchResponse (.literal "boom")]) ∧
      u.callbacks <+: v.callbacks := by
  intro responses failure second loud r q create script w v u
  have hsecond : second.Quiet := by
    intro n
    by_cases hn : n = 1 <;> simp [second, Throws.breaksOut, hn]
  have hnever (handler : Behaviour) :=
    (Watch.Run.begin create none handler none).stepsThrowing_never script
  -- The first run has a handler and the second has none, so the calls are not compared.
  have hlease := (((undisturbed_by_handler_or_deaf_server none none second .never).1 7 {}).1
    (some .record) none
    [responses, .setHandler (.panic (.text "again")), .fire 1, failure]
    [responses, .fire 1, failure] nofun nofun (by simp [responses, failure])
    (by simp [responses, failure]) rfl Throws.quiet_never).1 hsecond
  rw [KeepAlive.Run.stepsThrowing_never] at hlease
  have hwatch (handler : Behaviour) (hhandler : handler ≠ .close) (t : Throws) :=
    ((undisturbed_by_handler_or_deaf_server none none t .never).2 create).1 handler .record script
      script hhandler nofun (by simp [script]) (by simp [script]) rfl Throws.quiet_never
  obtain ⟨hsession, -, -, -, hcallbacks⟩ :=
    (hwatch (.panic (.literal "boom")) nofun .never).1 Throws.quiet_never
  -- The task of the loud handler ends, so of what it was told only the beginning is compared.
  have hbeginning := (hwatch .record nofun loud).2
  rw [hnever] at hbeginning hsession hcallbacks
  rw [hnever] at hsession hcallbacks
  refine ⟨⟨hlease.1, ?_, ?_, ?_⟩, ⟨hsession, hcallbacks, ?_, ?_⟩, hbeginning⟩ <;>
    dsimp only [r, w, responses, failure, second, create, script] <;> rfl

/-- **A value that panics when it is dropped does disturb a session.** The handlers differ only in
what they panic with at the first call. The lease goes without the second response and the heartbeat
that it brings, and the watch, whose first response is not its creation, is not created. -/
theorem disturbed_by_panic_on_drop :
    let quiet : Throws := fun n => if n = 0 then some { payload := .other } else none
    let loud : Throws := fun n =>
      if n = 0 then some { payload := .other, panicsOnDrop := true } else none
    let responses : KeepAlive.Step := .arrive [.response { id := 7, ttl := 10 },
      .response { id := 7, ttl := 8 }]
    let r t := (KeepAlive.Run.begin 7 {} none (some .record) none).stepsThrowing t [responses]
    let creation : Watch.Step := .arrive [.response { watchId := 42 },
      .response { watchId := 42, created := true }]
    let create := ({} : WatchOptions).request [97]
    let w t := (Watch.Run.begin create none .record none).stepsThrowing t [creation]
    ((r quiet).callbacks.length = 2 ∧ (r quiet).session.scheduler.heartbeats.length = 2 ∧
        (r quiet).receiving = true) ∧
      ((r loud).callbacks.length = 1 ∧ (r loud).session.scheduler.heartbeats.length = 1 ∧
        (r loud).receiving = false) ∧
      (w quiet).start = .ready 42 ∧ (w loud).start = .failed Watch.Run.taskEnded := by
  intro quiet loud responses r creation create w
  exact ⟨⟨rfl, rfl, rfl⟩, ⟨rfl, rfl, rfl⟩, rfl, rfl⟩

end EtcdClient
