import EtcdClient.Call
import EtcdClient.Proofs.Capabilities.Gating
import EtcdClient.Proofs.Operation.Demands
import EtcdClient.Proofs.Operation.Reading

/-
# Calls of operations

An operation either fails a demand and never leaves the client, or it is handed to the transport
once, with the arguments as they are, and what the transport comes back with decides the outcome:

| the operation | sent | outcome |
| --- | --- | --- |
| fails a demand | nothing | the error of the first that fails |
| fails none, a message comes back | the operation, once | the message |
| fails none, a status comes back | the operation, once | the status as an error |

Nothing is supposed of the transport, which may come back with anything. It has no part in a
refusal: the error is the same with every one of them. Who hands in a handler learns the outcome
from it, and then that there is no more to come.

Source: `SPEC_FULL.md` §10.3, `ResponseCallback`, and §10.5: errors of a request's construction
surface with the call.
-/

namespace EtcdClient

/-- A handler is told of an outcome. -/
inductive Callback.Tells {ρ : Type} : Callback ρ → Result ρ → Prop
  | response (r : ρ) : Tells (.response r) (.ok r)
  | error (e : ClientError) : Tells (.error e) (.error e)

/-- A handler is called twice, with the outcome and with its completion, in this order. -/
theorem Callback.ofOutcome_eq {ρ : Type} (outcome : Result ρ) :
    ∃ told, ofOutcome outcome = [told, .completed] ∧ told.Tells outcome := by
  cases outcome with
  | ok r => exact ⟨.response r, rfl, .response r⟩
  | error e => exact ⟨.error e, rfl, .error e⟩

namespace Client

/-- A client that refuses an operation does so for the first demand that fails. -/
theorem run_eq_error_iff_firstFails (c : Client) (op : Operation)
    (transport : Sent → Except Status Message) (e : ClientError) :
    c.run op transport = ([], .error e) ↔ Demand.FirstFails c.capabilities op.demands e := by
  rw [run_eq_error_iff, Operation.check_eq_error_iff]

/-- The checks have nothing to refuse if no demand fails. -/
theorem check_eq_ok_of_no_fault {c : Capabilities} {op : Operation}
    (h : ∀ e, ¬ Demand.FirstFails c op.demands e) : op.check c = .ok () := by
  cases hcheck : op.check c with
  | error e => exact absurd ((op.check_eq_error_iff e).1 hcheck) (h e)
  | ok u => rfl

/-- **An operation that fails a demand is never sent, and any other is sent once and unchanged.**
The first demand that fails gives the error, whatever the transport would do. If none fails, the
server reads the operation that was asked for, and the message that comes back is the outcome, or
the status that does, as an error. A handler is told of the outcome and then of the end. -/
theorem refused_unsent_accepted_sent_once (c : Client) (op : Operation) :
    (∀ transport e, c.run op transport = ([], .error e) ↔
      Demand.FirstFails c.capabilities op.demands e) ∧
    ((∀ e, ¬ Demand.FirstFails c.capabilities op.demands e) →
      ∃ sent : Sent,
        Operation.read? sent.request.path sent.request.message = some op.found ∧
        ∀ transport,
          (∀ m, transport sent = .ok m → c.run op transport = ([sent], .ok m)) ∧
          ∀ s, transport sent = .error s → c.run op transport = ([sent], .error (.grpc s))) ∧
    ∀ transport, ∃ told, Callback.ofOutcome (c.run op transport).2 = [told, .completed] ∧
      told.Tells (c.run op transport).2 := by
  refine ⟨c.run_eq_error_iff_firstFails op, ?_, fun transport => Callback.ofOutcome_eq _⟩
  intro hdemands
  refine ⟨c.send op.request, op.read?_request, fun transport => ?_⟩
  -- What the server reads depends on the request alone, so the operation is found before anything
  -- is said of the transport.
  have hrun := run_of_check (check_eq_ok_of_no_fault hdemands) transport
  constructor
  · intro m hm
    rw [hrun, hm]
    rfl
  · intro s hs
    rw [hrun, hs]
    rfl

/-- A user without a name is refused, and blanks around names are kept. What comes back may be a
message, or the status of a message that is too large for the client. -/
theorem refused_unsent_accepted_sent_once_of_role :
    let large : Status := { code := .outOfRange, message := "message length too large" }
    (∀ transport, run {} (.auth (.userGrantRole "\t " "")) transport =
      ([], .error (.invalidArgument (.blank "user name")))) ∧
    ∃ sent : Sent,
      Operation.read? sent.request.path sent.request.message =
        some (.auth (.userGrantRole " ann" "reader ")) ∧
      run {} (.auth (.userGrantRole " ann" "reader ")) (fun _ => .ok []) = ([sent], .ok []) ∧
      run {} (.auth (.userGrantRole " ann" "reader ")) (fun _ => .error large) =
        ([sent], .error (.grpc large)) := by
  intro large
  constructor
  · intro transport
    refine ((refused_unsent_accepted_sent_once {} _).1 transport _).2 ?_
    have hblank : Text.isBlankText "\t " = true := by decide
    exact ⟨[], _, [.notBlank "role" ""], rfl, nofun, .blank (List.all_eq_true.1 hblank)⟩
  · have hpasses : Operation.check .unknown (.auth (.userGrantRole " ann" "reader ")) = .ok () := by
      decide
    have hdemands (e : ClientError) : ¬ Demand.FirstFails .unknown
        (Operation.auth (.userGrantRole " ann" "reader ")).demands e := by
      intro hfails
      rw [(Operation.check_eq_error_iff _ e).2 hfails] at hpasses
      exact absurd hpasses nofun
    obtain ⟨sent, hread, hrun⟩ :=
      (refused_unsent_accepted_sent_once {} (.auth (.userGrantRole " ann" "reader "))).2.1 hdemands
    exact ⟨sent, hread, (hrun _).1 [] rfl, (hrun _).2 large rfl⟩

end Client
end EtcdClient
