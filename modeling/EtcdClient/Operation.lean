import EtcdClient.Request
import EtcdClient.Text.Blank

/-
# Operations

What a caller can ask of the five services that answer a request once. An operation is checked
against its arguments and the capabilities of the servers before anything is sent:

| operations | checks, the first failing one counts |
| --- | --- |
| put, get, delete, commit | their options, of a transaction those of all operations |
| compact | revision above zero |
| grant | lease id not negative |
| time to live, leases | understood by the server |
| authenticate, users, roles | user name, then password or role, not blank |
| member add, member update | at least one peer url |

Texts are sent as they are given, blanks included, and lists in their order.

Source: `SPEC_FULL.md` §10.5, the operations of the services for keys, leases, users and roles,
members, and maintenance, with `CompactOptions` of §10.6.
-/

namespace EtcdClient

/-- Refuses a text of blanks alone. -/
def notBlank (what : String) (s : String) : Result Unit :=
  if Text.isBlankText s then .error (.invalidArgument (.blank what)) else .ok ()

/-- Operations on keys. -/
inductive KvOperation
  | put (key value : Bytes) (options : PutOptions)
  | get (key : Bytes) (options : GetOptions)
  | delete (key : Bytes) (options : DeleteOptions)
  | compact (revision : Int64) (physical : Bool)
  | commit (txn : Txn)

namespace KvOperation

/-- The checks of the arguments and options. -/
def check (c : Capabilities) : KvOperation → Result Unit
  | put _ _ options => options.validate c
  | get _ options => options.validate
  | delete _ options => options.validate c
  | compact revision _ =>
    if revision ≤ 0 then .error (.invalidArgument (.notPositive "compaction revision" revision))
    else .ok ()
  | commit txn => txn.validate c

/-- What is sent, with ranges resolved. -/
def request : KvOperation → Request
  | put key value options => .put (options.request key value)
  | get key options => .range (options.request key)
  | delete key options => .deleteRange (options.request key)
  | compact revision physical => .compact revision physical
  | commit txn => .txn txn.request

end KvOperation

/-- Operations on leases. -/
inductive LeaseOperation
  | grant (ttl id : Int64)
  | revoke (id : Int64)
  | timeToLive (id : Int64) (keys : Bool)
  | leases

namespace LeaseOperation

/-- Two operations need a newer server, one a lease id that is not negative. -/
def check (c : Capabilities) : LeaseOperation → Result Unit
  | grant _ id => notNegative "lease id" id
  | revoke _ => .ok ()
  | timeToLive _ _ => c.require .leaseTimeToLive
  | leases => c.require .leaseLeases

/-- What is sent. -/
def request : LeaseOperation → Request
  | grant ttl id => .leaseGrant ttl id
  | revoke id => .leaseRevoke id
  | timeToLive id keys => .leaseTimeToLive id keys
  | leases => .leaseLeases

end LeaseOperation

/-- Operations on users and roles. -/
inductive AuthOperation
  | enable
  | disable
  | authenticate (name password : String)
  | userAdd (name password : String)
  | userGet (name : String)
  | userList
  | userDelete (name : String)
  | userChangePassword (name password : String)
  | userGrantRole (user role : String)
  | userRevokeRole (user role : String)
  | roleAdd (role : String)
  | roleGet (role : String)
  | roleList
  | roleDelete (role : String)
  | roleGrantPermission (role : String) (type : PermissionType) (key : Bytes) (range : KeyRange)
  | roleRevokePermission (role : String) (key : Bytes) (range : KeyRange)

namespace AuthOperation

/-- Names and passwords must not be blank; of two texts the first is checked first. -/
def check : AuthOperation → Result Unit
  | enable | disable | userList | roleList => .ok ()
  | authenticate name password | userAdd name password | userChangePassword name password => do
    notBlank "user name" name
    notBlank "password" password
  | userGet name | userDelete name => notBlank "user name" name
  | userGrantRole user role | userRevokeRole user role => do
    notBlank "user name" user
    notBlank "role" role
  | roleAdd role | roleGet role | roleDelete role | roleGrantPermission role _ _ _
  | roleRevokePermission role _ _ => notBlank "role" role

/-- What is sent, with texts as they are given and ranges resolved. -/
def request : AuthOperation → Request
  | enable => .authEnable
  | disable => .authDisable
  | authenticate name password => .authenticate name password
  | userAdd name password => .userAdd name password
  | userGet name => .userGet name
  | userList => .userList
  | userDelete name => .userDelete name
  | userChangePassword name password => .userChangePassword name password
  | userGrantRole user role => .userGrantRole user role
  | userRevokeRole user role => .userRevokeRole user role
  | roleAdd role => .roleAdd role
  | roleGet role => .roleGet role
  | roleList => .roleList
  | roleDelete role => .roleDelete role
  | roleGrantPermission role type key range =>
    .roleGrantPermission role type (range.resolve key)
  | roleRevokePermission role key range => .roleRevokePermission role (range.resolve key)

end AuthOperation

/-- Operations on the members of the cluster. -/
inductive ClusterOperation
  | memberList
  | memberAdd (peerUrls : List String) (isLearner : Bool)
  | memberRemove (id : UInt64)
  | memberUpdate (id : UInt64) (peerUrls : List String)

namespace ClusterOperation

/-- A member needs an address that others reach it at. -/
def check : ClusterOperation → Result Unit
  | memberAdd urls _ | memberUpdate _ urls =>
    if urls.isEmpty then .error (.invalidArgument .noPeerUrl) else .ok ()
  | memberList | memberRemove _ => .ok ()

/-- What is sent. -/
def request : ClusterOperation → Request
  | memberList => .memberList
  | memberAdd urls isLearner => .memberAdd urls isLearner
  | memberRemove id => .memberRemove id
  | memberUpdate id urls => .memberUpdate id urls

end ClusterOperation

/-- Operations on the member that is reached. -/
inductive MaintenanceOperation
  | listAlarms
  | deactivateAlarm (memberId : UInt64) (alarm : Int32)
  | defragment
  | status

namespace MaintenanceOperation

/-- What is sent. -/
def request : MaintenanceOperation → Request
  | listAlarms => .alarms
  | deactivateAlarm memberId alarm => .deactivateAlarm memberId alarm
  | defragment => .defragment
  | status => .status

end MaintenanceOperation

/-- An operation of any service. -/
inductive Operation
  | kv (op : KvOperation)
  | lease (op : LeaseOperation)
  | auth (op : AuthOperation)
  | cluster (op : ClusterOperation)
  | maintenance (op : MaintenanceOperation)

namespace Operation

/-- The checks of an operation. -/
def check (c : Capabilities) : Operation → Result Unit
  | kv op => op.check c
  | lease op => op.check c
  | auth op => op.check
  | cluster op => op.check
  | maintenance _ => .ok ()

/-- What is sent if the checks pass. -/
def request : Operation → Request
  | kv op => op.request
  | lease op => op.request
  | auth op => op.request
  | cluster op => op.request
  | maintenance op => op.request

end Operation
end EtcdClient
