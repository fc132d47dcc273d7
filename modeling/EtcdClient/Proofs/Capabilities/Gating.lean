import EtcdClient.Proofs.Result.Rows
import EtcdClient.Proofs.Version.Order
import EtcdClient.Proofs.Watch.Requests
import EtcdClient.Service

/-
# What servers can be asked

A client sends a request if the numbers in it make sense and the servers have every feature that it
uses, and holds it back otherwise. `Uses` says which features that are:

| asked for | numbers that are not negative | features used by |
| --- | --- | --- |
| put | lease id | previous pair, ignored value, ignored lease |
| get | limit, revision | – |
| delete | – | previous pairs |
| commit | those of all operations | the operations of both branches |
| time to live, listing of leases | – | the operation itself |
| watch | – | previous pairs, filters if there are any |

A feature is there from its first version on (`Capabilities.Has`), and as long as no version is
known every feature is. Since the order of versions is transitive, a newer server can be asked
whatever an older one can.

Source: `SPEC_FULL.md` §10.5 and §10.7: validators ask the capabilities, and an unknown version
never blocks a request.
-/

namespace EtcdClient

/-- A number passes just if it is not negative. -/
theorem notNegative_eq_ok_iff {what : String} {n : Int64} :
    notNegative what n = .ok () ↔ 0 ≤ n := by
  unfold notNegative
  by_cases hn : n < 0
  · rw [if_pos hn]
    exact iff_of_false nofun (Int64.not_le.2 hn)
  · rw [if_neg hn]
    exact iff_of_true rfl (Int64.not_lt.1 hn)

/-! ### Features of servers -/

namespace Capabilities

/-- The servers have the feature as far as is known. -/
def Has (c : Capabilities) (f : Feature) : Prop :=
  ∀ v, c.version = some v → f.since.atMost v = true

/-- A feature passes just if the capabilities have it. -/
theorem require_eq_ok_iff {c : Capabilities} {f : Feature} : c.require f = .ok () ↔ c.Has f := by
  obtain ⟨_ | v⟩ := c
  · exact iff_of_true rfl nofun
  · have hhas : Has ⟨some v⟩ f ↔ f.since.atMost v = true :=
      ⟨fun h => h v rfl, fun h w hw => Option.some.inj hw ▸ h⟩
    rw [hhas, require]
    dsimp only
    rw [Version.isLT_compare]
    cases f.since.atMost v with
    | true => exact iff_of_true rfl rfl
    | false => exact iff_of_false nofun Bool.false_ne_true

/-- A feature that is not used is not asked for. -/
theorem requireIf_eq_ok_iff {c : Capabilities} {used : Bool} {f : Feature} :
    c.requireIf used f = .ok () ↔ (used = true → c.Has f) := by
  cases used with
  | false => exact iff_of_true rfl (absurd · Bool.false_ne_true)
  | true => exact require_eq_ok_iff.trans ⟨fun h _ => h, fun h => h rfl⟩

/-- What an older server has a newer one has too. -/
theorem Has.mono {v w : Version} (hvw : v.atMost w = true) {f : Feature} (h : Has ⟨some v⟩ f) :
    Has ⟨some w⟩ f := by
  intro u hu
  obtain rfl := Option.some.inj hu
  exact Version.atMost_trans (h v rfl) hvw

end Capabilities

/-! ### Requests on keys -/

namespace PutOptions

/-- The features that a put uses. -/
def Uses (o : PutOptions) : Feature → Prop
  | .putPrevKv => o.prevKv = true
  | .putIgnoreValue => o.ignoreValue = true
  | .putIgnoreLease => o.ignoreLease = true
  | _ => False

/-- Each feature that a put uses is an option of it. -/
theorem forall_uses_iff {o : PutOptions} {P : Feature → Prop} :
    (∀ f, o.Uses f → P f) ↔ (o.prevKv = true → P .putPrevKv) ∧
      (o.ignoreValue = true → P .putIgnoreValue) ∧ (o.ignoreLease = true → P .putIgnoreLease) := by
  refine ⟨fun h => ⟨h .putPrevKv, h .putIgnoreValue, h .putIgnoreLease⟩, ?_⟩
  rintro ⟨hprevKv, hvalue, hlease⟩ f hf
  cases f with
  | putPrevKv => exact hprevKv hf
  | putIgnoreValue => exact hvalue hf
  | putIgnoreLease => exact hlease hf
  | _ => exact hf.elim

/-- A put passes just if its lease fits and every feature that it uses is there. -/
theorem validate_eq_ok_iff {o : PutOptions} {c : Capabilities} :
    o.validate c = .ok () ↔ 0 ≤ o.leaseId ∧ ∀ f, o.Uses f → c.Has f := by
  rw [validate, andThen_eq_ok_iff, andThen_eq_ok_iff, andThen_eq_ok_iff, notNegative_eq_ok_iff,
    Capabilities.requireIf_eq_ok_iff, Capabilities.requireIf_eq_ok_iff,
    Capabilities.requireIf_eq_ok_iff, forall_uses_iff]

end PutOptions

/-- A get has numbers to be checked and no feature: whatever it asks for every server
understands. -/
theorem GetOptions.validate_eq_ok_iff {o : GetOptions} :
    o.validate = .ok () ↔ 0 ≤ o.limit ∧ 0 ≤ o.revision := by
  rw [validate, andThen_eq_ok_iff, notNegative_eq_ok_iff, notNegative_eq_ok_iff]

namespace DeleteOptions

/-- The features that a delete uses. -/
def Uses (o : DeleteOptions) : Feature → Prop
  | .deletePrevKv => o.prevKv = true
  | _ => False

/-- A delete has a feature to be checked and no number. -/
theorem validate_eq_ok_iff {o : DeleteOptions} {c : Capabilities} :
    o.validate c = .ok () ↔ ∀ f, o.Uses f → c.Has f := by
  rw [validate, Capabilities.requireIf_eq_ok_iff]
  refine ⟨fun h f hf => ?_, fun h => h .deletePrevKv⟩
  cases f with
  | deletePrevKv => exact h hf
  | _ => exact hf.elim

end DeleteOptions

namespace WatchOptions

/-- The features that a watch uses. -/
def Uses (o : WatchOptions) : Feature → Prop
  | .watchPrevKv => o.prevKv = true
  | .watchFilters => o.filters ≠ []
  | _ => False

/-- A watch, too, has features only. -/
theorem validate_eq_ok_iff {o : WatchOptions} {c : Capabilities} :
    o.validate c = .ok () ↔ ∀ f, o.Uses f → c.Has f := by
  have hfilters : (!o.filters.isEmpty) = true ↔ o.filters ≠ [] := by
    cases o.filters <;> simp
  rw [validate, andThen_eq_ok_iff, Capabilities.requireIf_eq_ok_iff,
    Capabilities.requireIf_eq_ok_iff, hfilters]
  refine ⟨?_, fun h => ⟨h .watchPrevKv, h .watchFilters⟩⟩
  rintro ⟨hprevKv, hgiven⟩ f hf
  cases f with
  | watchPrevKv => exact hprevKv hf
  | watchFilters => exact hgiven hf
  | _ => exact hf.elim

end WatchOptions

namespace TxnOp

/-- The numbers of an operation of a branch make sense. -/
def NumbersFit : TxnOp → Prop
  | put _ _ options => 0 ≤ options.leaseId
  | get _ options => 0 ≤ options.limit ∧ 0 ≤ options.revision
  | delete _ _ => True

/-- The features that an operation of a branch uses. -/
def Uses : TxnOp → Feature → Prop
  | put _ _ options => options.Uses
  | get _ _ => fun _ => False
  | delete _ options => options.Uses

/-- The operation as one of its own. -/
def alone : TxnOp → KvOperation
  | put key value options => .put key value options
  | get key options => .get key options
  | delete key options => .delete key options

/-- An operation of a branch is checked like the same operation sent alone. -/
theorem check_alone (op : TxnOp) (c : Capabilities) : op.alone.check c = op.validate c := by
  cases op <;> rfl

/-- It passes under the conditions of its own kind. -/
theorem validate_eq_ok_iff {op : TxnOp} {c : Capabilities} :
    op.validate c = .ok () ↔ op.NumbersFit ∧ ∀ f, op.Uses f → c.Has f := by
  cases op with
  | put key value options => exact PutOptions.validate_eq_ok_iff
  | get key options =>
    refine GetOptions.validate_eq_ok_iff.trans ⟨fun h => ⟨h, fun f hf => hf.elim⟩, And.left⟩
  | delete key options =>
    exact DeleteOptions.validate_eq_ok_iff.trans ⟨fun h => ⟨trivial, h⟩, And.right⟩

end TxnOp

/-! ### Operations -/

namespace KvOperation

/-- The numbers of an operation on keys make sense. -/
def NumbersFit : KvOperation → Prop
  | put _ _ options => 0 ≤ options.leaseId
  | get _ options => 0 ≤ options.limit ∧ 0 ≤ options.revision
  | delete _ _ => True
  | compact revision _ => 0 < revision
  | commit t => ∀ op ∈ t.operations, op.NumbersFit

/-- The features that an operation on keys uses. -/
def Uses : KvOperation → Feature → Prop
  | put _ _ options => options.Uses
  | get _ _ => fun _ => False
  | delete _ options => options.Uses
  | compact _ _ => fun _ => False
  | commit t => fun f => ∃ op ∈ t.operations, op.Uses f

/-- Guards are not checked, the operations of both branches are. -/
theorem check_eq_ok_iff (op : KvOperation) (c : Capabilities) :
    op.check c = .ok () ↔ op.NumbersFit ∧ ∀ f, op.Uses f → c.Has f := by
  cases op with
  | put key value options => exact PutOptions.validate_eq_ok_iff
  | get key options =>
    exact GetOptions.validate_eq_ok_iff.trans ⟨fun h => ⟨h, fun f hf => hf.elim⟩, And.left⟩
  | delete key options =>
    exact DeleteOptions.validate_eq_ok_iff.trans ⟨fun h => ⟨trivial, h⟩, And.right⟩
  | compact revision physical =>
    rw [check]
    by_cases hr : revision ≤ 0
    · rw [if_pos hr]
      exact iff_of_false nofun fun h => Int64.not_lt.2 hr h.1
    · rw [if_neg hr]
      exact iff_of_true rfl ⟨Int64.not_le.1 hr, fun f hf => hf.elim⟩
  | commit t =>
    -- Operation by operation, since both branches are checked whichever of them is run.
    rw [check, Txn.validate, forM_eq_ok_iff]
    constructor
    · intro h
      refine ⟨fun op hop => (TxnOp.validate_eq_ok_iff.1 (h op hop)).1, ?_⟩
      rintro f ⟨op, hop, hf⟩
      exact (TxnOp.validate_eq_ok_iff.1 (h op hop)).2 f hf
    · rintro ⟨hnumbers, hfeatures⟩ op hop
      exact TxnOp.validate_eq_ok_iff.2 ⟨hnumbers op hop, fun f hf => hfeatures f ⟨op, hop, hf⟩⟩

end KvOperation

namespace LeaseOperation

/-- The numbers of an operation on leases make sense. -/
def NumbersFit : LeaseOperation → Prop
  | grant _ id => 0 ≤ id
  | _ => True

/-- The features that an operation on leases uses. -/
def Uses : LeaseOperation → Feature → Prop
  | timeToLive _ _ => fun f => f = .leaseTimeToLive
  | leases => fun f => f = .leaseLeases
  | _ => fun _ => False

/-- An operation on a lease passes just if its numbers fit and the features it uses are there. -/
theorem check_eq_ok_iff (op : LeaseOperation) (c : Capabilities) :
    op.check c = .ok () ↔ op.NumbersFit ∧ ∀ f, op.Uses f → c.Has f := by
  cases op with
  | grant ttl id =>
    exact notNegative_eq_ok_iff.trans ⟨fun h => ⟨h, fun f hf => hf.elim⟩, And.left⟩
  | revoke id => exact iff_of_true rfl ⟨trivial, fun f hf => hf.elim⟩
  | timeToLive id keys =>
    refine Capabilities.require_eq_ok_iff.trans ⟨fun h => ⟨trivial, ?_⟩, fun h => h.2 _ rfl⟩
    rintro f rfl
    exact h
  | leases =>
    refine Capabilities.require_eq_ok_iff.trans ⟨fun h => ⟨trivial, ?_⟩, fun h => h.2 _ rfl⟩
    rintro f rfl
    exact h

end LeaseOperation

/-! ### What leaves a client -/

namespace Client

section Transport

variable {c : Client} {op : Operation}

/-- An operation whose checks pass is handed to the transport once, and what the transport comes
back with is the outcome. -/
theorem run_of_check (h : op.check c.capabilities = .ok ())
    (transport : Sent → Except Status Message) :
    c.run op transport =
      ([c.send op.request], (transport (c.send op.request)).mapError .grpc) := by
  rw [run, h]

/-- An operation that is refused never gets to the transport, so any of them leads to the error. -/
theorem run_eq_error_iff (transport : Sent → Except Status Message) (e : ClientError) :
    c.run op transport = ([], .error e) ↔ op.check c.capabilities = .error e := by
  rw [run]
  cases op.check c.capabilities <;> simp

end Transport

/-- The same against a server, whose reply is the outcome. -/
theorem call_of_check {c : Client} {op : Operation} (h : op.check c.capabilities = .ok ())
    (server : Sent → Reply) :
    c.call op server =
      ([c.send op.request], (server (c.send op.request)).outcome op.request.reply) :=
  run_of_check h _

/-- A call returns the error of its check just if it sends nothing. -/
theorem call_eq_error_iff (c : Client) (op : Operation) (server : Sent → Reply)
    (e : ClientError) : c.call op server = ([], .error e) ↔ op.check c.capabilities = .error e :=
  run_eq_error_iff _ e

/-- An operation whose checks pass is sent once, as it is, and any other is not sent. -/
theorem call_sent_iff (c : Client) (op : Operation) (server : Sent → Reply) :
    ((c.call op server).1 = [c.send op.request] ↔ op.check c.capabilities = .ok ()) ∧
      ((c.call op server).1 = [] ↔ op.check c.capabilities ≠ .ok ()) := by
  cases hcheck : op.check c.capabilities with
  | error e =>
    rw [(c.call_eq_error_iff op server e).2 hcheck]
    exact ⟨iff_of_false nofun nofun, iff_of_true rfl nofun⟩
  | ok u =>
    rw [call_of_check hcheck]
    exact ⟨iff_of_true rfl rfl, iff_of_false nofun fun h => h rfl⟩

/-- Only the features that are there decide whether an operation is held back. -/
theorem check_of_has {c c' : Capabilities} (hmore : ∀ f, c.Has f → c'.Has f) {op : Operation}
    (h : op.check c = .ok ()) : op.check c' = .ok () := by
  cases op with
  | kv op =>
    obtain ⟨hnumbers, hfeatures⟩ := (KvOperation.check_eq_ok_iff op c).1 h
    exact (KvOperation.check_eq_ok_iff op c').2
      ⟨hnumbers, fun f hf => hmore f (hfeatures f hf)⟩
  | lease op =>
    obtain ⟨hnumbers, hfeatures⟩ := (LeaseOperation.check_eq_ok_iff op c).1 h
    exact (LeaseOperation.check_eq_ok_iff op c').2
      ⟨hnumbers, fun f hf => hmore f (hfeatures f hf)⟩
  | auth op => exact h
  | cluster op => exact h
  | maintenance op => exact h

/-- What an older server can be asked a newer one can be asked too. -/
theorem check_mono {v w : Version} (hvw : v.atMost w = true) {op : Operation}
    (h : op.check ⟨some v⟩ = .ok ()) : op.check ⟨some w⟩ = .ok () :=
  check_of_has (fun _ hf => hf.mono hvw) h

/-- A watch is started just if its options pass, and then with the request that they describe. -/
theorem watch_eq_ok_iff (c : Client) (key : Bytes) (options : WatchOptions) (handler : Behaviour)
    (answer : Option Status) (r : Watch.Run) :
    c.watch key options handler answer = .ok r ↔
      options.validate c.capabilities = .ok () ∧
        .begin (options.request key) c.handshakeTimeout handler (refusal answer) = r := by
  rw [watch]
  cases options.validate c.capabilities with
  | error e => exact iff_of_false nofun fun h => absurd h.1 nofun
  | ok u => exact ⟨fun h => ⟨rfl, Except.ok.inj h⟩, fun h => congrArg Except.ok h.2⟩

/-- The one request of a watch that was just started is its creation. -/
theorem requests_of_watch {c : Client} {key : Bytes} {options : WatchOptions}
    {handler : Behaviour} {answer : Option Status} {r : Watch.Run}
    (h : c.watch key options handler answer = .ok r) :
    r.session.requests = [.watchCreate (options.request key)] := by
  rw [← ((c.watch_eq_ok_iff key options handler answer r).1 h).2]
  exact Watch.Run.begin_requests _ _ _ _

/-- A transaction is refused for the first of its operations that would be refused alone. -/
theorem call_commit_eq_error_iff (c : Client) (t : Txn) (server : Sent → Reply)
    (e : ClientError) :
    c.call (.kv (.commit t)) server = ([], .error e) ↔
      ∃ before op after, t.success ++ t.failure = before ++ op :: after ∧
        (∀ o ∈ before, (c.call (.kv o.alone) server).1 ≠ []) ∧
        c.call (.kv op.alone) server = ([], .error e) := by
  have hpasses (op : TxnOp) : (c.call (.kv op.alone) server).1 ≠ [] ↔
      op.validate c.capabilities = .ok () := by
    rw [Ne, (c.call_sent_iff _ server).2, Ne, Classical.not_not, Operation.check, op.check_alone]
  have hfails (op : TxnOp) : c.call (.kv op.alone) server = ([], .error e) ↔
      op.validate c.capabilities = .error e := by
    rw [call_eq_error_iff, Operation.check, op.check_alone]
  rw [call_eq_error_iff, Operation.check, KvOperation.check, Txn.validate, forM_eq_error_iff]
  simp only [hpasses, hfails]
  rfl

end Client

/-- **A client asks servers for what they have, and for all of it.** An operation on keys or leases
is sent if its numbers make sense and every feature that it uses is there, and otherwise nothing is
sent; the same goes for a watch. The guards of a transaction are not among what it uses, and if it
is refused then for the first operation, in order of success and then failure, that would be refused
alone. What is sent to servers of one version is sent to those of any later one, pre-releases
included, and has the same outcome. -/
theorem sent_iff_supported :
    (∀ (c : Client) (op : KvOperation) (server : Sent → Reply),
      let sent := (c.call (.kv op) server).1
      let supported := op.NumbersFit ∧ ∀ f, op.Uses f → c.capabilities.Has f
      (sent = [c.send op.request] ↔ supported) ∧ (sent = [] ↔ ¬ supported)) ∧
    (∀ (c : Client) (op : LeaseOperation) (server : Sent → Reply),
      let sent := (c.call (.lease op) server).1
      let supported := op.NumbersFit ∧ ∀ f, op.Uses f → c.capabilities.Has f
      (sent = [c.send op.request] ↔ supported) ∧ (sent = [] ↔ ¬ supported)) ∧
    (∀ (c : Client) (key : Bytes) (options : WatchOptions) (handler : Behaviour)
        (answer : Option Status),
      let session := c.watch key options handler answer
      let supported := ∀ f, options.Uses f → c.capabilities.Has f
      ((∃ r, session = .ok r ∧ r.session.requests = [.watchCreate (options.request key)]) ↔
        supported) ∧ ((∃ e, session = .error e) ↔ ¬ supported)) ∧
    (∀ (c : Client) (t : Txn) (server : Sent → Reply) (e : ClientError),
      c.call (.kv (.commit t)) server = ([], .error e) ↔
        ∃ before op after, t.success ++ t.failure = before ++ op :: after ∧
          (∀ o ∈ before, (c.call (.kv o.alone) server).1 ≠ []) ∧
          c.call (.kv op.alone) server = ([], .error e)) ∧
    (∀ (c : Client) (v w : Version), v.atMost w = true →
      let old : Client := { c with capabilities := ⟨some v⟩ }
      let new : Client := { c with capabilities := ⟨some w⟩ }
      (∀ (op : Operation) (server : Sent → Reply),
        (old.call op server).1 ≠ [] → new.call op server = old.call op server) ∧
        ∀ key options handler answer r,
          old.watch key options handler answer = .ok r →
            new.watch key options handler answer = .ok r) := by
  refine ⟨fun c op server => ?_, fun c op server => ?_, fun c key options handler answer => ?_,
    fun c t server e => c.call_commit_eq_error_iff t server e, fun c v w hvw => ?_⟩
  · obtain ⟨hall, hnothing⟩ := c.call_sent_iff (.kv op) server
    have hcheck := op.check_eq_ok_iff c.capabilities
    exact ⟨hall.trans hcheck, hnothing.trans (not_congr hcheck)⟩
  · obtain ⟨hall, hnothing⟩ := c.call_sent_iff (.lease op) server
    have hcheck := op.check_eq_ok_iff c.capabilities
    exact ⟨hall.trans hcheck, hnothing.trans (not_congr hcheck)⟩
  -- A watch opens a stream instead of calling, so its start stands for what is sent.
  · intro session supported
    have hcheck : options.validate c.capabilities = .ok () ↔ supported :=
      WatchOptions.validate_eq_ok_iff
    have hstarts : (∃ r, session = .ok r) ↔ supported := by
      refine Iff.trans ⟨?_, fun h => ?_⟩ hcheck
      · rintro ⟨r, hr⟩
        exact ((c.watch_eq_ok_iff key options handler answer r).1 hr).1
      · exact ⟨_, (c.watch_eq_ok_iff key options handler answer _).2 ⟨h, rfl⟩⟩
    refine ⟨Iff.trans ⟨?_, ?_⟩ hstarts, ?_⟩
    · rintro ⟨r, hr, -⟩
      exact ⟨r, hr⟩
    · rintro ⟨r, hr⟩
      exact ⟨r, hr, Client.requests_of_watch hr⟩
    · exact (exists_eq_error_iff session).trans (not_congr hstarts)
  -- Newer capabilities have every feature of the older ones, so no check fails that passed before.
  · intro old new
    refine ⟨fun op server hsent => ?_, fun key options handler answer r hr => ?_⟩
    · have hold : op.check old.capabilities = .ok () :=
        Classical.byContradiction fun h => hsent ((old.call_sent_iff op server).2.2 h)
      have hnew : op.check new.capabilities = .ok () := Client.check_mono hvw hold
      exact (Client.call_of_check hnew server).trans (Client.call_of_check hold server).symm
    · obtain ⟨hvalid, hrun⟩ := (old.watch_eq_ok_iff key options handler answer r).1 hr
      have hfeatures := WatchOptions.validate_eq_ok_iff.1 hvalid
      refine (new.watch_eq_ok_iff key options handler answer r).2 ⟨?_, hrun⟩
      exact WatchOptions.validate_eq_ok_iff.2 fun f hf => (hfeatures f hf).mono hvw

/-- A lease is asked for its time to live, and events are filtered, at the first version that can do
so and at a candidate for the next one. -/
theorem sent_iff_supported_by_release_candidate :
    let v : Version := ⟨3, 1, 0, none⟩
    let w : Version := ⟨3, 2, 0, some "rc.0"⟩
    let old : Client := { capabilities := ⟨some v⟩ }
    let new : Client := { capabilities := ⟨some w⟩ }
    let op : Operation := .lease (.timeToLive 7 false)
    let server : Sent → Reply := fun _ => .missing
    let options : WatchOptions := { filters := [.noPut] }
    let r := Watch.Run.begin (options.request [97]) none .record none
    v.atMost w = true ∧ (old.call op server).1 ≠ [] ∧ new.call op server = old.call op server ∧
      old.watch [97] options .record none = .ok r ∧
        new.watch [97] options .record none = .ok r := by
  intro v w old new op server options r
  have hvw : v.atMost w = true := rfl
  have hsent : (old.call op server).1 ≠ [] := List.cons_ne_nil _ _
  have hwatched : old.watch [97] options .record none = .ok r := rfl
  obtain ⟨-, -, -, -, hnewer⟩ := sent_iff_supported
  obtain ⟨hcall, hwatch⟩ := hnewer {} v w hvw
  exact ⟨hvw, hsent, hcall op server hsent, hwatched,
    hwatch [97] options .record none r hwatched⟩

end EtcdClient
