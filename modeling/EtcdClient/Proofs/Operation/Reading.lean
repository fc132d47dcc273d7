import EtcdClient.Operation
import EtcdClient.Proofs.Request.Reading
import Mathlib.Logic.Basic

/-
# Reading operations

A server knows an operation by the path of its request and takes the arguments from the fields of
the message. `Operation.read?` does so for every operation of the five services. It finds what the
client was asked for, argument by argument, except that of a key with a range it finds the pair that
these resolve to (`Operation.read?_request`):

| asked for | found |
| --- | --- |
| a text, with blanks around it or not | the same text |
| a list | the same list |
| a key and a range that resolve to `(k, e)` | the key `k` and the range before `e` |
| a transaction | the same guards and branches, place by place |

What it finds would be sent as the same request (`Operation.request_found`).

Source: the requests of `rpc.proto`, `auth.proto` and `kv.proto`.
-/

namespace EtcdClient

/-! ### Ranges as they are found -/

/-- The key and the range that a server finds in a pair. -/
def WireRange.found (w : WireRange) : Bytes × KeyRange := (w.key, .before w.rangeEnd)

/-- A key and a range as a server finds them. -/
def KeyRange.found (range : KeyRange) (key : Bytes) : Bytes × KeyRange := (range.resolve key).found

/-- A guard with its range as a server finds it. -/
def Compare.found (c : Compare) : Compare :=
  { c with key := (c.range.found c.key).1, range := (c.range.found c.key).2 }

/-- An operation of a branch with its range as a server finds it. -/
def TxnOp.found : TxnOp → TxnOp
  | put key value options => put key value options
  | get key options =>
    let (key, range) := options.range.found key
    get key { options with range }
  | delete key options =>
    let (key, range) := options.range.found key
    delete key { options with range }

/-- A transaction with its ranges as a server finds them. -/
def Txn.found (t : Txn) : Txn :=
  ⟨t.compares.map Compare.found, t.success.map TxnOp.found, t.failure.map TxnOp.found⟩

/-- An operation with its ranges as a server finds them, and all else as it is. -/
def Operation.found : Operation → Operation
  | kv (.get key options) =>
    let (key, range) := options.range.found key
    kv (.get key { options with range })
  | kv (.delete key options) =>
    let (key, range) := options.range.found key
    kv (.delete key { options with range })
  | kv (.commit t) => kv (.commit t.found)
  | auth (.roleGrantPermission role type key range) =>
    let (key, range) := range.found key
    auth (.roleGrantPermission role type key range)
  | auth (.roleRevokePermission role key range) =>
    let (key, range) := range.found key
    auth (.roleRevokePermission role key range)
  | op => op

/-- Of a guard the server finds the same pair, so the same is sent. -/
theorem Compare.request_found (c : Compare) : c.found.request = c.request := rfl

/-- So it is of an operation of a branch. -/
theorem TxnOp.request_found (op : TxnOp) : op.found.request = op.request := by
  cases op <;> rfl

/-- So it is of a transaction as a whole. -/
theorem Txn.request_found (t : Txn) : t.found.request = t.request := by
  simp only [request, found, List.map_map, Function.comp_def, Compare.request_found,
    TxnOp.request_found]

/-- What a server finds would be sent as the same request. -/
theorem Operation.request_found (op : Operation) : op.found.request = op.request := by
  cases op with
  | kv op =>
    cases op with
    | commit t => exact congrArg Request.txn t.request_found
    | _ => rfl
  | auth op => cases op <;> rfl
  | lease op | cluster op | maintenance op => rfl

/-! ### What a request asks for -/

/-- The options of a get, with the range that is found. -/
def RangeRequest.options (r : RangeRequest) : GetOptions where
  range := r.range.found.2
  limit := r.limit
  revision := r.revision
  sortOrder := r.sortOrder
  sortTarget := r.sortTarget
  serializable := r.serializable
  keysOnly := r.keysOnly
  countOnly := r.countOnly
  minModRevision := r.minModRevision
  maxModRevision := r.maxModRevision
  minCreateRevision := r.minCreateRevision
  maxCreateRevision := r.maxCreateRevision

/-- The options of a delete, with the range that is found. -/
def DeleteRangeRequest.options (r : DeleteRangeRequest) : DeleteOptions :=
  ⟨r.range.found.2, r.prevKv⟩

/-- The guard that is asked for. -/
def CompareRequest.asked (c : CompareRequest) : Compare :=
  ⟨c.range.found.1, c.range.found.2, c.relation, c.operand⟩

/-- The operation of a branch that is asked for. -/
def RequestOp.asked : RequestOp → TxnOp
  | range r => .get r.range.found.1 r.options
  | put r => .put r.key r.value r.options
  | deleteRange r => .delete r.range.found.1 r.options

/-- The transaction that is asked for. -/
def TxnRequest.asked (t : TxnRequest) : Txn :=
  ⟨t.compares.map CompareRequest.asked, t.success.map RequestOp.asked,
    t.failure.map RequestOp.asked⟩

/-- The request of an operation asks for that operation, its range as the server finds it. -/
theorem TxnOp.asked_request (op : TxnOp) : op.request.asked = op.found := by
  cases op <;> rfl

/-- Likewise for every guard and every operation of a transaction, in order. -/
theorem Txn.asked_request (t : Txn) : t.request.asked = t.found := by
  simp only [TxnRequest.asked, request, found, List.map_map]
  rw [← funext TxnOp.asked_request]
  rfl

/-! ### Reading -/

/-- The type of a permission that a number stands for. -/
def PermissionType.ofNumber (n : Int32) : PermissionType :=
  if n = 1 then .write else if n = 2 then .readWrite else .read

/-- The type of a permission survives being sent as a number. -/
theorem PermissionType.ofNumber_number (t : PermissionType) : ofNumber t.number = t := by
  cases t <;> decide

/-- The permission in a field of a message, its type and its range. -/
def Message.permission? (m : Message) (number : Nat) : Option (PermissionType × WireRange) :=
  (m.message? number).map fun permission =>
    (.ofNumber (permission.enum 1), permission.range 2 3)

/-- The operation that a server reads of a path and a message. -/
def Operation.read? (path : String) (m : Message) : Option Operation :=
  match path with
  | "/etcdserverpb.KV/Put" =>
    let r := PutRequest.ofMessage m
    some (kv (.put r.key r.value r.options))
  | "/etcdserverpb.KV/Range" =>
    let r := RangeRequest.ofMessage m
    some (kv (.get r.range.found.1 r.options))
  | "/etcdserverpb.KV/DeleteRange" =>
    let r := DeleteRangeRequest.ofMessage m
    some (kv (.delete r.range.found.1 r.options))
  | "/etcdserverpb.KV/Compact" => some (kv (.compact (m.int64 1) (m.bool 2)))
  | "/etcdserverpb.KV/Txn" => (TxnRequest.ofMessage? m).map fun t => kv (.commit t.asked)
  | "/etcdserverpb.Lease/LeaseGrant" => some (lease (.grant (m.int64 1) (m.int64 2)))
  | "/etcdserverpb.Lease/LeaseRevoke" => some (lease (.revoke (m.int64 1)))
  | "/etcdserverpb.Lease/LeaseTimeToLive" => some (lease (.timeToLive (m.int64 1) (m.bool 2)))
  | "/etcdserverpb.Lease/LeaseLeases" => some (lease .leases)
  | "/etcdserverpb.Auth/AuthEnable" => some (auth .enable)
  | "/etcdserverpb.Auth/AuthDisable" => some (auth .disable)
  | "/etcdserverpb.Auth/Authenticate" => some (auth (.authenticate (m.text 1) (m.text 2)))
  | "/etcdserverpb.Auth/UserAdd" => some (auth (.userAdd (m.text 1) (m.text 2)))
  | "/etcdserverpb.Auth/UserGet" => some (auth (.userGet (m.text 1)))
  | "/etcdserverpb.Auth/UserList" => some (auth .userList)
  | "/etcdserverpb.Auth/UserDelete" => some (auth (.userDelete (m.text 1)))
  | "/etcdserverpb.Auth/UserChangePassword" =>
    some (auth (.userChangePassword (m.text 1) (m.text 2)))
  | "/etcdserverpb.Auth/UserGrantRole" => some (auth (.userGrantRole (m.text 1) (m.text 2)))
  | "/etcdserverpb.Auth/UserRevokeRole" => some (auth (.userRevokeRole (m.text 1) (m.text 2)))
  | "/etcdserverpb.Auth/RoleAdd" => some (auth (.roleAdd (m.text 1)))
  | "/etcdserverpb.Auth/RoleGet" => some (auth (.roleGet (m.text 1)))
  | "/etcdserverpb.Auth/RoleList" => some (auth .roleList)
  | "/etcdserverpb.Auth/RoleDelete" => some (auth (.roleDelete (m.text 1)))
  | "/etcdserverpb.Auth/RoleGrantPermission" =>
    (m.permission? 2).map fun p =>
      auth (.roleGrantPermission (m.text 1) p.1 p.2.found.1 p.2.found.2)
  | "/etcdserverpb.Auth/RoleRevokePermission" =>
    let w := m.range 2 3
    some (auth (.roleRevokePermission (m.text 1) w.found.1 w.found.2))
  | "/etcdserverpb.Cluster/MemberList" => some (cluster .memberList)
  | "/etcdserverpb.Cluster/MemberAdd" => some (cluster (.memberAdd (m.texts 1) (m.bool 2)))
  | "/etcdserverpb.Cluster/MemberRemove" => some (cluster (.memberRemove (m.uint64 1)))
  | "/etcdserverpb.Cluster/MemberUpdate" =>
    some (cluster (.memberUpdate (m.uint64 1) (m.texts 2)))
  | "/etcdserverpb.Maintenance/Alarm" =>
    if m.enum 1 = 2 then some (maintenance (.deactivateAlarm (m.uint64 2) (m.enum 3)))
    else some (maintenance .listAlarms)
  | "/etcdserverpb.Maintenance/Defragment" => some (maintenance .defragment)
  | "/etcdserverpb.Maintenance/Status" => some (maintenance .status)
  | _ => none

/-! ### What is read of a request -/

namespace Message

/-- A text is read back from its field, also the empty one, which is sent by leaving the field
out. -/
theorem text_plain (field s : String) : text (Field.plain 1 field (.text s)) 1 = s :=
  Holds.text_eq (by simp [Holds])

/-- Two texts in the first two fields are told apart. -/
theorem texts_plain (field field' s s' : String) :
    text (Field.plain 1 field (.text s) ++ Field.plain 2 field' (.text s')) 1 = s ∧
      text (Field.plain 1 field (.text s) ++ Field.plain 2 field' (.text s')) 2 = s' :=
  ⟨Holds.text_eq (by simp [Holds]), Holds.text_eq (by simp [Holds])⟩

end Message

/-- The type and the range of a permission that is granted are read back from the message inside. -/
theorem Request.permission?_grant (role : String) (type : PermissionType) (w : WireRange) :
    (roleGrantPermission role type w).message.permission? 2 = some (type, w) := by
  have hpermission : (roleGrantPermission role type w).message.message? 2 =
      some (Field.plain 1 "perm_type" (.enum type.number) ++ Field.plain 2 "key" (.bytes w.key) ++
        Field.plain 3 "range_end" (.bytes w.rangeEnd)) := by
    simp [Message.message?, message]
  rw [Message.permission?, hpermission, Option.map_some,
    Message.Holds.enum_eq (x := type.number) (by simp [Message.Holds]),
    Message.range_eq (w := w) (by simp [Message.Holds]) (by simp [Message.Holds]),
    PermissionType.ofNumber_number]

namespace Operation

/-- The case of the key-value service. Its requests are read field by field as they were written. -/
theorem read?_kv (op : KvOperation) :
    read? op.request.path op.request.message = some (kv op).found := by
  cases op with
  | put key value options =>
    exact congrArg (fun r : PutRequest => some (kv (.put r.key r.value r.options)))
      (PutRequest.ofMessage_message _)
  | get key options =>
    exact congrArg (fun r : RangeRequest => some (kv (.get r.range.found.1 r.options)))
      (RangeRequest.ofMessage_message _)
  | delete key options =>
    exact congrArg (fun r : DeleteRangeRequest => some (kv (.delete r.range.found.1 r.options)))
      (DeleteRangeRequest.ofMessage_message _)
  | compact revision physical =>
    have hrevision : (Request.compact revision physical).message.int64 1 = revision :=
      Message.Holds.int64_eq (by simp [Message.Holds, Request.message])
    have hphysical : (Request.compact revision physical).message.bool 2 = physical :=
      Message.Holds.bool_eq (by simp [Message.Holds, Request.message])
    exact congrArg₂ (fun n b => some (kv (.compact n b))) hrevision hphysical
  | commit t =>
    show (TxnRequest.ofMessage? t.request.message).map (fun t => kv (.commit t.asked)) = _
    rw [TxnRequest.ofMessage?_message, Option.map_some, Txn.asked_request]
    rfl

/-- The case of the lease service. -/
theorem read?_lease (op : LeaseOperation) :
    read? op.request.path op.request.message = some (lease op).found := by
  cases op with
  | grant ttl id =>
    have httl : (Request.leaseGrant ttl id).message.int64 1 = ttl :=
      Message.Holds.int64_eq (by simp [Message.Holds, Request.message])
    have hid : (Request.leaseGrant ttl id).message.int64 2 = id :=
      Message.Holds.int64_eq (by simp [Message.Holds, Request.message])
    exact congrArg₂ (fun n k => some (lease (.grant n k))) httl hid
  | revoke id =>
    have hid : (Request.leaseRevoke id).message.int64 1 = id :=
      Message.Holds.int64_eq (by simp [Message.Holds, Request.message])
    exact congrArg (fun n => some (lease (.revoke n))) hid
  | timeToLive id keys =>
    have hid : (Request.leaseTimeToLive id keys).message.int64 1 = id :=
      Message.Holds.int64_eq (by simp [Message.Holds, Request.message])
    have hkeys : (Request.leaseTimeToLive id keys).message.bool 2 = keys :=
      Message.Holds.bool_eq (by simp [Message.Holds, Request.message])
    exact congrArg₂ (fun n b => some (lease (.timeToLive n b))) hid hkeys
  | leases => rfl

/-- The case of the service of users and roles, which has the most calls and the shortest
messages. -/
theorem read?_auth (op : AuthOperation) :
    read? op.request.path op.request.message = some (auth op).found := by
  cases op with
  -- Without arguments the method says it all. The others are read field by field.
  | enable | disable | userList | roleList => rfl
  | authenticate name password =>
    obtain ⟨hname, hpassword⟩ := Message.texts_plain "name" "password" name password
    exact congrArg₂ (fun s s' => some (auth (.authenticate s s'))) hname hpassword
  | userAdd name password =>
    obtain ⟨hname, hpassword⟩ := Message.texts_plain "name" "password" name password
    exact congrArg₂ (fun s s' => some (auth (.userAdd s s'))) hname hpassword
  | userChangePassword name password =>
    obtain ⟨hname, hpassword⟩ := Message.texts_plain "name" "password" name password
    exact congrArg₂ (fun s s' => some (auth (.userChangePassword s s'))) hname hpassword
  | userGrantRole user role =>
    obtain ⟨huser, hrole⟩ := Message.texts_plain "user" "role" user role
    exact congrArg₂ (fun s s' => some (auth (.userGrantRole s s'))) huser hrole
  | userRevokeRole user role =>
    obtain ⟨huser, hrole⟩ := Message.texts_plain "name" "role" user role
    exact congrArg₂ (fun s s' => some (auth (.userRevokeRole s s'))) huser hrole
  | userGet name =>
    exact congrArg (fun s => some (auth (.userGet s))) (Message.text_plain "name" name)
  | userDelete name =>
    exact congrArg (fun s => some (auth (.userDelete s))) (Message.text_plain "name" name)
  | roleAdd role =>
    exact congrArg (fun s => some (auth (.roleAdd s))) (Message.text_plain "name" role)
  | roleGet role =>
    exact congrArg (fun s => some (auth (.roleGet s))) (Message.text_plain "role" role)
  | roleDelete role =>
    exact congrArg (fun s => some (auth (.roleDelete s))) (Message.text_plain "role" role)
  -- The range stands inside a message of its own, next to the type.
  | roleGrantPermission role type key range =>
    have hrole :
        (Request.roleGrantPermission role type (range.resolve key)).message.text 1 = role :=
      Message.Holds.text_eq (by simp [Message.Holds, Request.message])
    exact congrArg₂
      (fun s p => Option.map (fun p => auth (.roleGrantPermission s p.1 p.2.found.1 p.2.found.2)) p)
      hrole (Request.permission?_grant role type (range.resolve key))
  | roleRevokePermission role key range =>
    have hrole : (Request.roleRevokePermission role (range.resolve key)).message.text 1 = role :=
      Message.Holds.text_eq (by simp [Message.Holds, Request.message])
    have hrange : (Request.roleRevokePermission role (range.resolve key)).message.range 2 3 =
        range.resolve key :=
      Message.range_eq (by simp [Message.Holds, Request.message])
        (by simp [Message.Holds, Request.message])
    exact congrArg₂ (fun s w => some (auth (.roleRevokePermission s w.found.1 w.found.2)))
      hrole hrange

/-- The case of the cluster service. -/
theorem read?_cluster (op : ClusterOperation) :
    read? op.request.path op.request.message = some (cluster op).found := by
  cases op with
  | memberList => rfl
  | memberAdd urls isLearner =>
    have hurls : (Request.memberAdd urls isLearner).message.texts 1 = urls :=
      Message.Holds.texts_eq (by simp [Message.Holds, Request.message, Request.urls])
    have hlearner : (Request.memberAdd urls isLearner).message.bool 2 = isLearner :=
      Message.Holds.bool_eq (by simp [Message.Holds, Request.message, Request.urls])
    exact congrArg₂ (fun us b => some (cluster (.memberAdd us b))) hurls hlearner
  | memberRemove id =>
    have hid : (Request.memberRemove id).message.uint64 1 = id :=
      Message.Holds.uint64_eq (by simp [Message.Holds, Request.message])
    exact congrArg (fun n => some (cluster (.memberRemove n))) hid
  | memberUpdate id urls =>
    have hid : (Request.memberUpdate id urls).message.uint64 1 = id :=
      Message.Holds.uint64_eq (by simp [Message.Holds, Request.message, Request.urls])
    have hurls : (Request.memberUpdate id urls).message.texts 2 = urls :=
      Message.Holds.texts_eq (by simp [Message.Holds, Request.message, Request.urls])
    exact congrArg₂ (fun n us => some (cluster (.memberUpdate n us))) hid hurls

/-- The case of the maintenance service. -/
theorem read?_maintenance (op : MaintenanceOperation) :
    read? op.request.path op.request.message = some (maintenance op).found := by
  cases op with
  | listAlarms | defragment | status => rfl
  | deactivateAlarm memberId alarm =>
    have hmember : (Request.deactivateAlarm memberId alarm).message.uint64 2 = memberId :=
      Message.Holds.uint64_eq (by simp [Message.Holds, Request.message])
    have halarm : (Request.deactivateAlarm memberId alarm).message.enum 3 = alarm :=
      Message.Holds.enum_eq (by simp [Message.Holds, Request.message])
    exact congrArg₂ (fun n k => some (maintenance (.deactivateAlarm n k))) hmember halarm

/-- **A server finds in a request what the client was asked for.** -/
theorem read?_request (op : Operation) :
    read? op.request.path op.request.message = some op.found := by
  cases op with
  | kv op => exact read?_kv op
  | lease op => exact read?_lease op
  | auth op => exact read?_auth op
  | cluster op => exact read?_cluster op
  | maintenance op => exact read?_maintenance op

end Operation
end EtcdClient
