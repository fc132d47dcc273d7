import EtcdClient.Kv.Txn
import EtcdClient.Watch.Options
import EtcdClient.Wire.Schema

/-
# Requests

Everything that a client can send. Each request goes to one method of one service, has a message
with fields of fixed numbers, and is answered by messages of one schema.

Source: the messages and methods of `rpc.proto`, `auth.proto` and `kv.proto`.
-/

namespace EtcdClient

/-- What a permission allows. -/
inductive PermissionType
  | read
  | write
  | readWrite
  deriving DecidableEq

namespace PermissionType

def all : List PermissionType := [read, write, readWrite]

def text : PermissionType → String
  | read => "Read"
  | write => "Write"
  | readWrite => "ReadWrite"

/-- The number of the type in a request. -/
def number : PermissionType → Int32
  | read => 0
  | write => 1
  | readWrite => 2

end PermissionType

/-- A request of one of the services. -/
inductive Request
  | range (r : RangeRequest)
  | put (r : PutRequest)
  | deleteRange (r : DeleteRangeRequest)
  | txn (r : TxnRequest)
  | compact (revision : Int64) (physical : Bool)
  | watchCreate (r : WatchCreateRequest)
  | watchCancel (watchId : Int64)
  | leaseGrant (ttl id : Int64)
  | leaseRevoke (id : Int64)
  | leaseTimeToLive (id : Int64) (keys : Bool)
  | leaseLeases
  | leaseKeepAlive (id : Int64)
  | memberAdd (peerUrls : List String) (isLearner : Bool)
  | memberRemove (id : UInt64)
  | memberUpdate (id : UInt64) (peerUrls : List String)
  | memberList
  | alarms
  | deactivateAlarm (memberId : UInt64) (alarm : Int32)
  | status
  | defragment
  | authEnable
  | authDisable
  | authenticate (name password : String)
  | userAdd (name password : String)
  | userGet (name : String)
  | userList
  | userDelete (name : String)
  | userChangePassword (name password : String)
  | userGrantRole (user role : String)
  | userRevokeRole (user role : String)
  | roleAdd (role : String)
  | roleGet (role : String)
  | roleList
  | roleDelete (role : String)
  | roleGrantPermission (role : String) (type : PermissionType) (range : WireRange)
  | roleRevokePermission (role : String) (range : WireRange)
  deriving DecidableEq

/-- The fields of a get. -/
def RangeRequest.message (r : RangeRequest) : Message :=
  Field.plain 1 "key" (.bytes r.range.key) ++
  Field.plain 2 "range_end" (.bytes r.range.rangeEnd) ++
  Field.plain 3 "limit" (.int64 r.limit) ++
  Field.plain 4 "revision" (.int64 r.revision) ++
  Field.plain 5 "sort_order" (.enum r.sortOrder.number) ++
  Field.plain 6 "sort_target" (.enum r.sortTarget.number) ++
  Field.plain 7 "serializable" (.bool r.serializable) ++
  Field.plain 8 "keys_only" (.bool r.keysOnly) ++
  Field.plain 9 "count_only" (.bool r.countOnly) ++
  Field.plain 10 "min_mod_revision" (.int64 r.minModRevision) ++
  Field.plain 11 "max_mod_revision" (.int64 r.maxModRevision) ++
  Field.plain 12 "min_create_revision" (.int64 r.minCreateRevision) ++
  Field.plain 13 "max_create_revision" (.int64 r.maxCreateRevision)

/-- The fields of a put. -/
def PutRequest.message (r : PutRequest) : Message :=
  Field.plain 1 "key" (.bytes r.key) ++
  Field.plain 2 "value" (.bytes r.value) ++
  Field.plain 3 "lease" (.int64 r.options.leaseId) ++
  Field.plain 4 "prev_kv" (.bool r.options.prevKv) ++
  Field.plain 5 "ignore_value" (.bool r.options.ignoreValue) ++
  Field.plain 6 "ignore_lease" (.bool r.options.ignoreLease)

/-- The fields of a delete. -/
def DeleteRangeRequest.message (r : DeleteRangeRequest) : Message :=
  Field.plain 1 "key" (.bytes r.range.key) ++
  Field.plain 2 "range_end" (.bytes r.range.rangeEnd) ++
  Field.plain 3 "prev_kv" (.bool r.prevKv)

/-- The number of the relation in a request. -/
def Relation.number : Relation → Int32
  | .equal => 0
  | .greater => 1
  | .less => 2
  | .notEqual => 3

/-- The number of the attribute in a request. -/
def Attribute.number : Attribute → Int32
  | .version => 0
  | .create => 1
  | .modification => 2
  | .value => 3

/-- An operand is one of a choice, so it is there even if it is zero or empty. -/
def Operand.message : Operand → Message
  | .version n => Field.chosen 4 "version" (.int64 n)
  | .createRevision n => Field.chosen 5 "create_revision" (.int64 n)
  | .modRevision n => Field.chosen 6 "mod_revision" (.int64 n)
  | .value b => Field.chosen 7 "value" (.bytes b)

/-- The fields of a guard. -/
def CompareRequest.message (c : CompareRequest) : Message :=
  Field.plain 1 "result" (.enum c.relation.number) ++
  Field.plain 2 "target" (.enum c.target.number) ++
  Field.plain 3 "key" (.bytes c.range.key) ++
  c.operand.message ++
  Field.plain 64 "range_end" (.bytes c.range.rangeEnd)

/-- An operation of a branch is one of a choice. -/
def RequestOp.message : RequestOp → Message
  | .range r => Field.chosen 1 "request_range" (.message r.message)
  | .put r => Field.chosen 2 "request_put" (.message r.message)
  | .deleteRange r => Field.chosen 3 "request_delete_range" (.message r.message)

/-- The fields of a transaction. -/
def TxnRequest.message (t : TxnRequest) : Message :=
  Field.plain 1 "compare" (.list (t.compares.map (.message ·.message))) ++
  Field.plain 2 "success" (.list (t.success.map (.message ·.message))) ++
  Field.plain 3 "failure" (.list (t.failure.map (.message ·.message)))

/-- The fields of a watch. -/
def WatchCreateRequest.message (r : WatchCreateRequest) : Message :=
  Field.plain 1 "key" (.bytes r.range.key) ++
  Field.plain 2 "range_end" (.bytes r.range.rangeEnd) ++
  Field.plain 3 "start_revision" (.int64 r.startRevision) ++
  Field.plain 4 "progress_notify" (.bool r.progressNotify) ++
  Field.plain 5 "filters" (.list (r.filters.map fun f => .enum f.number)) ++
  Field.plain 6 "prev_kv" (.bool r.prevKv)

namespace Request

/-- The method that a request goes to. -/
def path : Request → String
  | range _ => "/etcdserverpb.KV/Range"
  | put _ => "/etcdserverpb.KV/Put"
  | deleteRange _ => "/etcdserverpb.KV/DeleteRange"
  | txn _ => "/etcdserverpb.KV/Txn"
  | compact _ _ => "/etcdserverpb.KV/Compact"
  | watchCreate _ | watchCancel _ => "/etcdserverpb.Watch/Watch"
  | leaseGrant _ _ => "/etcdserverpb.Lease/LeaseGrant"
  | leaseRevoke _ => "/etcdserverpb.Lease/LeaseRevoke"
  | leaseTimeToLive _ _ => "/etcdserverpb.Lease/LeaseTimeToLive"
  | leaseLeases => "/etcdserverpb.Lease/LeaseLeases"
  | leaseKeepAlive _ => "/etcdserverpb.Lease/LeaseKeepAlive"
  | memberAdd _ _ => "/etcdserverpb.Cluster/MemberAdd"
  | memberRemove _ => "/etcdserverpb.Cluster/MemberRemove"
  | memberUpdate _ _ => "/etcdserverpb.Cluster/MemberUpdate"
  | memberList => "/etcdserverpb.Cluster/MemberList"
  | alarms | deactivateAlarm _ _ => "/etcdserverpb.Maintenance/Alarm"
  | status => "/etcdserverpb.Maintenance/Status"
  | defragment => "/etcdserverpb.Maintenance/Defragment"
  | authEnable => "/etcdserverpb.Auth/AuthEnable"
  | authDisable => "/etcdserverpb.Auth/AuthDisable"
  | authenticate _ _ => "/etcdserverpb.Auth/Authenticate"
  | userAdd _ _ => "/etcdserverpb.Auth/UserAdd"
  | userGet _ => "/etcdserverpb.Auth/UserGet"
  | userList => "/etcdserverpb.Auth/UserList"
  | userDelete _ => "/etcdserverpb.Auth/UserDelete"
  | userChangePassword _ _ => "/etcdserverpb.Auth/UserChangePassword"
  | userGrantRole _ _ => "/etcdserverpb.Auth/UserGrantRole"
  | userRevokeRole _ _ => "/etcdserverpb.Auth/UserRevokeRole"
  | roleAdd _ => "/etcdserverpb.Auth/RoleAdd"
  | roleGet _ => "/etcdserverpb.Auth/RoleGet"
  | roleList => "/etcdserverpb.Auth/RoleList"
  | roleDelete _ => "/etcdserverpb.Auth/RoleDelete"
  | roleGrantPermission _ _ _ => "/etcdserverpb.Auth/RoleGrantPermission"
  | roleRevokePermission _ _ => "/etcdserverpb.Auth/RoleRevokePermission"

/-- A name and a password. -/
def account (name password : String) : Message :=
  Field.plain 1 "name" (.text name) ++ Field.plain 2 "password" (.text password)

/-- Addresses as field `number`. -/
def urls (number : Nat) (us : List String) : Message :=
  Field.plain number "peer_urls" (.list (us.map .text))

/-- The message of a request. -/
def message : Request → Message
  | range r => r.message
  | put r => r.message
  | deleteRange r => r.message
  | txn r => r.message
  | compact revision physical =>
    Field.plain 1 "revision" (.int64 revision) ++ Field.plain 2 "physical" (.bool physical)
  | watchCreate r => Field.chosen 1 "create_request" (.message r.message)
  | watchCancel id =>
    Field.chosen 2 "cancel_request" (.message (Field.plain 1 "watch_id" (.int64 id)))
  | leaseGrant ttl id => Field.plain 1 "ttl" (.int64 ttl) ++ Field.plain 2 "id" (.int64 id)
  | leaseRevoke id | leaseKeepAlive id => Field.plain 1 "id" (.int64 id)
  | leaseTimeToLive id keys => Field.plain 1 "id" (.int64 id) ++ Field.plain 2 "keys" (.bool keys)
  | memberAdd us isLearner => urls 1 us ++ Field.plain 2 "is_learner" (.bool isLearner)
  | memberRemove id => Field.plain 1 "id" (.uint64 id)
  | memberUpdate id us => Field.plain 1 "id" (.uint64 id) ++ urls 2 us
  | memberList => Field.plain 1 "linearizable" (.bool true)
  | deactivateAlarm memberId alarm =>
    Field.plain 1 "action" (.enum 2) ++ Field.plain 2 "member_id" (.uint64 memberId) ++
      Field.plain 3 "alarm" (.enum alarm)
  | authenticate name password | userAdd name password | userChangePassword name password =>
    account name password
  | userGet name | userDelete name | roleAdd name => Field.plain 1 "name" (.text name)
  | userGrantRole user role =>
    Field.plain 1 "user" (.text user) ++ Field.plain 2 "role" (.text role)
  | userRevokeRole user role =>
    Field.plain 1 "name" (.text user) ++ Field.plain 2 "role" (.text role)
  | roleGet role | roleDelete role => Field.plain 1 "role" (.text role)
  | roleGrantPermission role type w =>
    Field.plain 1 "name" (.text role) ++
      Field.chosen 2 "perm" (.message
        (Field.plain 1 "perm_type" (.enum type.number) ++ Field.plain 2 "key" (.bytes w.key) ++
          Field.plain 3 "range_end" (.bytes w.rangeEnd)))
  | roleRevokePermission role w =>
    Field.plain 1 "role" (.text role) ++ Field.plain 2 "key" (.bytes w.key) ++
      Field.plain 3 "range_end" (.bytes w.rangeEnd)
  | leaseLeases | alarms | status | defragment | authEnable | authDisable | userList
  | roleList => []

/-- The schema of the replies. -/
def reply : Request → Schema
  | range _ => .range
  | put _ => .put
  | deleteRange _ => .deleteRange
  | txn _ => .txn
  | watchCreate _ | watchCancel _ => .watch
  | leaseGrant _ _ => .leaseGrant
  | leaseTimeToLive _ _ => .timeToLive
  | leaseLeases => .leases
  | leaseKeepAlive _ => .keepAlive
  | memberAdd _ _ => .memberAdd
  | memberRemove _ | memberUpdate _ _ | memberList => .members
  | alarms | deactivateAlarm _ _ => .alarms
  | status => .status
  | authenticate _ _ => .authenticate
  | userGet _ | roleList => .roles
  | userList => .users
  | roleGet _ => .permissions
  | _ => .headerOnly

end Request
end EtcdClient
