import EtcdClient.Proofs.Capabilities.Lowest

/-
# What operations demand

An operation makes demands on its arguments and on the servers, in a fixed order:

| operation | demands |
| --- | --- |
| put | lease id not negative; previous pair, ignored value, ignored lease understood if used |
| get | limit, then revision not negative |
| delete | previous pairs understood if used |
| compact | revision above zero |
| commit | those of the operations, of success and then of failure |
| grant | lease id not negative |
| time to live, listing of leases | understood |
| authenticate, add a user, change a password | user name, then password not blank |
| grant or revoke a role of a user | user name, then role not blank |
| other operations on one user, on one role | user name not blank, role not blank |
| add or update a member | some peer url |
| all others | none |

`Demand.Fails` says with which error a demand fails. The check of an operation gives the error of
the first demand that fails, and passes if none does (`Operation.check_eq_error_iff`).

Source: `SPEC_FULL.md` §10.5 to §10.7, the checks of each operation.
-/

namespace EtcdClient

/-- What an operation demands of an argument or of the servers. -/
inductive Demand
  | notNegative (what : String) (n : Int64)
  | positive (what : String) (n : Int64)
  | notBlank (what : String) (s : String)
  | someUrl (urls : List String)
  | understood (f : Feature)

namespace Demand

/-- A demand fails with an error. -/
inductive Fails (c : Capabilities) : Demand → ClientError → Prop
  | negative {what : String} {n : Int64} (h : n < 0) :
    Fails c (.notNegative what n) (.invalidArgument (.negative what n))
  | notPositive {what : String} {n : Int64} (h : n ≤ 0) :
    Fails c (.positive what n) (.invalidArgument (.notPositive what n))
  | blank {what s : String} (h : ∀ ch ∈ s.toList, Text.isBlank ch = true) :
    Fails c (.notBlank what s) (.invalidArgument (.blank what))
  | noUrl : Fails c (.someUrl []) (.invalidArgument .noPeerUrl)
  | tooOld {f : Feature} {v : Version} (hv : c.version = some v) (h : compare v f.since = .lt) :
    Fails c (.understood f) (.unsupported f f.since v)

/-- The first demand of a list that fails does so with an error. -/
def FirstFails (c : Capabilities) (ds : List Demand) (e : ClientError) : Prop :=
  ∃ before d after, ds = before ++ d :: after ∧ (∀ b ∈ before, ∀ e', ¬ b.Fails c e') ∧ d.Fails c e

/-- The check of one demand. -/
def check (c : Capabilities) : Demand → Result Unit
  | notNegative what n => EtcdClient.notNegative what n
  | positive what n =>
    if n ≤ 0 then .error (.invalidArgument (.notPositive what n)) else .ok ()
  | notBlank what s => EtcdClient.notBlank what s
  | someUrl urls => if urls.isEmpty then .error (.invalidArgument .noPeerUrl) else .ok ()
  | understood f => c.require f

variable {c : Capabilities}

/-- A feature is refused just where the relation says so: the version is known and too old. -/
theorem require_eq_error_iff_fails {f : Feature} {e : ClientError} :
    c.require f = .error e ↔ (understood f).Fails c e := by
  rw [Capabilities.require_eq_error_iff]
  constructor
  · rintro ⟨hsupports, v, hv, rfl⟩
    rw [Capabilities.supports, hv] at hsupports
    have hsince : f.since.atMost v = false := hsupports
    have hlt := Version.isLT_compare v f.since
    rw [hsince] at hlt
    exact .tooOld hv (Ordering.isLT_iff_eq_lt.1 hlt)
  · intro h
    cases h with
    | @tooOld _ v hv hlt =>
      have hsince := Version.isLT_compare v f.since
      rw [hlt, Ordering.isLT_lt, eq_comm, Bool.not_eq_true'] at hsince
      rw [Capabilities.supports, hv]
      exact ⟨hsince, v, rfl, rfl⟩

/-- The relation `Fails` says when a demand is not met, and with which error. -/
theorem check_eq_error_iff {d : Demand} {e : ClientError} :
    d.check c = .error e ↔ d.Fails c e := by
  -- One case for each kind of demand: the test of the check is the condition of the failure.
  cases d with
  | notNegative what n =>
    rw [check, EtcdClient.notNegative]
    constructor
    · intro h
      split at h
      · next hn => exact Except.error.inj h ▸ .negative hn
      · exact absurd h nofun
    · intro h
      cases h with
      | negative hn => rw [if_pos hn]
  | positive what n =>
    rw [check]
    constructor
    · intro h
      split at h
      · next hn => exact Except.error.inj h ▸ .notPositive hn
      · exact absurd h nofun
    · intro h
      cases h with
      | notPositive hn => rw [if_pos hn]
  | notBlank what s =>
    rw [check, EtcdClient.notBlank, Text.isBlankText]
    constructor
    · intro h
      split at h
      · next hs => exact Except.error.inj h ▸ .blank (List.all_eq_true.1 hs)
      · exact absurd h nofun
    · intro h
      cases h with
      | blank hs => rw [if_pos (List.all_eq_true.2 hs)]
  | someUrl urls =>
    rw [check]
    cases urls with
    | nil =>
      constructor
      · intro h
        exact Except.error.inj h ▸ .noUrl
      · intro h
        cases h with
        | noUrl => rfl
    | cons u urls => exact iff_of_false nofun nofun
  | understood f => exact require_eq_error_iff_fails

/-- A demand is met just if it fails in no way. -/
theorem check_eq_ok_iff {d : Demand} : d.check c = .ok () ↔ ∀ e, ¬ d.Fails c e := by
  rw [eq_ok_iff_forall_ne]
  exact forall_congr' fun e => not_congr check_eq_error_iff

/-- Demands that are checked one after the other fail with the first that does. -/
theorem forM_check_eq_error_iff {ds : List Demand} {e : ClientError} :
    ds.forM (check c) = .error e ↔ FirstFails c ds e := by
  rw [forM_eq_error_iff]
  simp only [check_eq_error_iff, check_eq_ok_iff]
  rfl

/-- The demand for a feature that is used or not. -/
def ifUsed (used : Bool) (f : Feature) : List Demand := if used then [.understood f] else []

/-! ### Demands in a row -/

/-- Demands may be checked in two parts. -/
theorem forM_append (ds ds' : List Demand) :
    (ds ++ ds').forM (check c) = ds.forM (check c) >>= fun _ => ds'.forM (check c) :=
  List.forM_append

/-- A list of one demand is that demand. -/
theorem forM_singleton (d : Demand) : [d].forM (check c) = d.check c := by
  show (d.check c >>= fun _ => pure ()) = d.check c
  cases d.check c <;> rfl

/-- A list of two is the one and then the other. -/
theorem forM_pair (d d' : Demand) :
    [d, d'].forM (check c) = d.check c >>= fun _ => d'.check c := by
  rw [← forM_singleton d, ← forM_singleton d']
  exact forM_append [d] [d']

/-- A feature that is not used is no demand. -/
theorem forM_ifUsed (used : Bool) (f : Feature) :
    (ifUsed used f).forM (check c) = c.requireIf used f := by
  cases used with
  | false => rfl
  | true => exact forM_singleton (.understood f)

/-- The demands of a list of operations are checked operation by operation. -/
theorem forM_flatMap {α : Type} (as : List α) (f : α → List Demand) :
    (as.flatMap f).forM (check c) = as.forM fun a => (f a).forM (check c) := by
  induction as with
  | nil => rfl
  | cons a as ih =>
    rw [List.flatMap_cons, forM_append, ih]
    rfl

end Demand

/-! ### Demands of operations -/

/-- The demands of a put. -/
def PutOptions.demands (o : PutOptions) : List Demand :=
  [.notNegative "lease id" o.leaseId] ++ (Demand.ifUsed o.prevKv .putPrevKv ++
    (Demand.ifUsed o.ignoreValue .putIgnoreValue ++ Demand.ifUsed o.ignoreLease .putIgnoreLease))

/-- The demands of a get. -/
def GetOptions.demands (o : GetOptions) : List Demand :=
  [.notNegative "limit" o.limit, .notNegative "revision" o.revision]

/-- The demands of a delete. -/
def DeleteOptions.demands (o : DeleteOptions) : List Demand := Demand.ifUsed o.prevKv .deletePrevKv

/-- The demands of an operation of a branch. -/
def TxnOp.demands : TxnOp → List Demand
  | put _ _ options => options.demands
  | get _ options => options.demands
  | delete _ options => options.demands

/-- The demands of an operation, the first one first. -/
def Operation.demands : Operation → List Demand
  | kv (.put _ _ options) => options.demands
  | kv (.get _ options) => options.demands
  | kv (.delete _ options) => options.demands
  | kv (.compact revision _) => [.positive "compaction revision" revision]
  | kv (.commit t) => (t.success ++ t.failure).flatMap TxnOp.demands
  | lease (.grant _ id) => [.notNegative "lease id" id]
  | lease (.revoke _) => []
  | lease (.timeToLive _ _) => [.understood .leaseTimeToLive]
  | lease .leases => [.understood .leaseLeases]
  | auth (.authenticate name password) | auth (.userAdd name password)
  | auth (.userChangePassword name password) =>
    [.notBlank "user name" name, .notBlank "password" password]
  | auth (.userGrantRole user role) | auth (.userRevokeRole user role) =>
    [.notBlank "user name" user, .notBlank "role" role]
  | auth (.userGet name) | auth (.userDelete name) => [.notBlank "user name" name]
  | auth (.roleAdd role) | auth (.roleGet role) | auth (.roleDelete role)
  | auth (.roleGrantPermission role _ _ _) | auth (.roleRevokePermission role _ _) =>
    [.notBlank "role" role]
  | auth .enable | auth .disable | auth .userList | auth .roleList => []
  | cluster (.memberAdd urls _) | cluster (.memberUpdate _ urls) => [.someUrl urls]
  | cluster .memberList | cluster (.memberRemove _) => []
  | maintenance _ => []

variable {c : Capabilities}

/-- A put makes its demands in this order, and stops at the first that fails. -/
theorem PutOptions.validate_eq_forM (o : PutOptions) :
    o.validate c = o.demands.forM (Demand.check c) := by
  rw [demands, Demand.forM_append, Demand.forM_append, Demand.forM_append, Demand.forM_singleton,
    Demand.forM_ifUsed, Demand.forM_ifUsed, Demand.forM_ifUsed]
  rfl

/-- So does a get, whose demands are of numbers alone. -/
theorem GetOptions.validate_eq_forM (o : GetOptions) :
    o.validate = o.demands.forM (Demand.check c) := by
  rw [demands, Demand.forM_pair]
  rfl

/-- So does a delete. -/
theorem DeleteOptions.validate_eq_forM (o : DeleteOptions) :
    o.validate c = o.demands.forM (Demand.check c) := by
  rw [demands, Demand.forM_ifUsed]
  rfl

/-- So does an operation of a branch, by its kind. -/
theorem TxnOp.validate_eq_forM (op : TxnOp) :
    op.validate c = op.demands.forM (Demand.check c) := by
  cases op with
  | put key value options => exact options.validate_eq_forM
  | get key options => exact options.validate_eq_forM
  | delete key options => exact options.validate_eq_forM

/-- An operation is checked demand by demand. -/
theorem Operation.check_eq_forM (op : Operation) :
    op.check c = op.demands.forM (Demand.check c) := by
  cases op with
  | kv op =>
    cases op with
    -- The options make their demands in the order in which they check them.
    | put key value options => exact options.validate_eq_forM
    | get key options => exact options.validate_eq_forM
    | delete key options => exact options.validate_eq_forM
    | compact revision physical =>
      rw [demands, Demand.forM_singleton]
      rfl
    -- The demands of a transaction are those of its operations, both branches, in order.
    | commit t =>
      rw [demands, Demand.forM_flatMap]
      exact congrArg (List.forM (t.success ++ t.failure)) (funext TxnOp.validate_eq_forM)
  | lease op =>
    cases op with
    | revoke id => rfl
    | _ =>
      rw [demands, Demand.forM_singleton]
      rfl
  | auth op =>
    -- Calls on users demand one text or two, and calls without a text demand nothing.
    cases op with
    | enable | disable | userList | roleList => rfl
    | authenticate name password | userAdd name password | userChangePassword name password
    | userGrantRole user role | userRevokeRole user role =>
      rw [demands, Demand.forM_pair]
      rfl
    | _ =>
      rw [demands, Demand.forM_singleton]
      rfl
  | cluster op =>
    cases op with
    | memberList | memberRemove id => rfl
    | _ =>
      rw [demands, Demand.forM_singleton]
      rfl
  | maintenance op => rfl

/-- **An operation is refused for the first demand that fails.** -/
theorem Operation.check_eq_error_iff (op : Operation) (e : ClientError) :
    op.check c = .error e ↔ Demand.FirstFails c op.demands e := by
  rw [check_eq_forM, Demand.forM_check_eq_error_iff]

end EtcdClient
