import EtcdClient.Wire.Message

/-
# Schemas of replies

The fields that the messages of a server may have. A reply that carries nothing but the header has
the schema `headerOnly`, and replies with the same fields share a schema.

Source: the responses of `rpc.proto`, `auth.proto` and `kv.proto`.
-/

namespace EtcdClient

/-- The messages that a server sends, and the messages inside them. -/
inductive Schema
  | header
  | headerOnly
  | keyValue
  | event
  | range
  | put
  | deleteRange
  | responseOp
  | txn
  | watch
  | leaseGrant
  | keepAlive
  | timeToLive
  | leaseStatus
  | leases
  | member
  | memberAdd
  | members
  | alarmMember
  | alarms
  | status
  | authenticate
  | roles
  | users
  | permission
  | permissions
  deriving DecidableEq

/-- The type of one value of a field. -/
inductive FieldType
  | int64
  | uint64
  | enum
  | bool
  | bytes
  | text
  | message (schema : Schema)
  deriving DecidableEq

/-- How often a field may be there. -/
inductive Arity
  | single
  | repeated
  /-- A member of the one choice that the message has. -/
  | choice
  deriving DecidableEq

/-- A field that a message may have. -/
structure FieldSchema where
  number : Nat
  name : String
  type : FieldType
  arity : Arity := .single

namespace Schema

/-- The fields of a message in the order of their numbers. -/
def fields : Schema → List FieldSchema
  | header =>
    [⟨1, "cluster_id", .uint64, .single⟩, ⟨2, "member_id", .uint64, .single⟩,
      ⟨3, "revision", .int64, .single⟩, ⟨4, "raft_term", .uint64, .single⟩]
  | headerOnly => [⟨1, "header", .message header, .single⟩]
  | keyValue =>
    [⟨1, "key", .bytes, .single⟩, ⟨2, "create_revision", .int64, .single⟩,
      ⟨3, "mod_revision", .int64, .single⟩, ⟨4, "version", .int64, .single⟩,
      ⟨5, "value", .bytes, .single⟩, ⟨6, "lease", .int64, .single⟩]
  | event =>
    [⟨1, "type", .enum, .single⟩, ⟨2, "kv", .message keyValue, .single⟩,
      ⟨3, "prev_kv", .message keyValue, .single⟩]
  | range =>
    [⟨1, "header", .message header, .single⟩, ⟨2, "kvs", .message keyValue, .repeated⟩,
      ⟨3, "more", .bool, .single⟩, ⟨4, "count", .int64, .single⟩]
  | put =>
    [⟨1, "header", .message header, .single⟩, ⟨2, "prev_kv", .message keyValue, .single⟩]
  | deleteRange =>
    [⟨1, "header", .message header, .single⟩, ⟨2, "deleted", .int64, .single⟩,
      ⟨3, "prev_kvs", .message keyValue, .repeated⟩]
  | responseOp =>
    [⟨1, "response_range", .message range, .choice⟩, ⟨2, "response_put", .message put, .choice⟩,
      ⟨3, "response_delete_range", .message deleteRange, .choice⟩,
      ⟨4, "response_txn", .message txn, .choice⟩]
  | txn =>
    [⟨1, "header", .message header, .single⟩, ⟨2, "succeeded", .bool, .single⟩,
      ⟨3, "responses", .message responseOp, .repeated⟩]
  | watch =>
    [⟨1, "header", .message header, .single⟩, ⟨2, "watch_id", .int64, .single⟩,
      ⟨3, "created", .bool, .single⟩, ⟨4, "canceled", .bool, .single⟩,
      ⟨5, "compact_revision", .int64, .single⟩, ⟨6, "cancel_reason", .text, .single⟩,
      ⟨7, "fragment", .bool, .single⟩, ⟨11, "events", .message event, .repeated⟩]
  | leaseGrant =>
    [⟨1, "header", .message header, .single⟩, ⟨2, "id", .int64, .single⟩,
      ⟨3, "ttl", .int64, .single⟩, ⟨4, "error", .text, .single⟩]
  | keepAlive =>
    [⟨1, "header", .message header, .single⟩, ⟨2, "id", .int64, .single⟩,
      ⟨3, "ttl", .int64, .single⟩]
  | timeToLive =>
    [⟨1, "header", .message header, .single⟩, ⟨2, "id", .int64, .single⟩,
      ⟨3, "ttl", .int64, .single⟩, ⟨4, "granted_ttl", .int64, .single⟩,
      ⟨5, "keys", .bytes, .repeated⟩]
  | leaseStatus => [⟨1, "id", .int64, .single⟩]
  | leases =>
    [⟨1, "header", .message header, .single⟩, ⟨2, "leases", .message leaseStatus, .repeated⟩]
  | member =>
    [⟨1, "id", .uint64, .single⟩, ⟨2, "name", .text, .single⟩,
      ⟨3, "peer_urls", .text, .repeated⟩, ⟨4, "client_urls", .text, .repeated⟩,
      ⟨5, "is_learner", .bool, .single⟩]
  | memberAdd =>
    [⟨1, "header", .message header, .single⟩, ⟨2, "member", .message member, .single⟩,
      ⟨3, "members", .message member, .repeated⟩]
  | members =>
    [⟨1, "header", .message header, .single⟩, ⟨2, "members", .message member, .repeated⟩]
  | alarmMember => [⟨1, "member_id", .uint64, .single⟩, ⟨2, "alarm", .enum, .single⟩]
  | alarms =>
    [⟨1, "header", .message header, .single⟩, ⟨2, "alarms", .message alarmMember, .repeated⟩]
  | status =>
    [⟨1, "header", .message header, .single⟩, ⟨2, "version", .text, .single⟩,
      ⟨3, "db_size", .int64, .single⟩, ⟨4, "leader", .uint64, .single⟩,
      ⟨5, "raft_index", .uint64, .single⟩, ⟨6, "raft_term", .uint64, .single⟩,
      ⟨7, "raft_applied_index", .uint64, .single⟩, ⟨8, "errors", .text, .repeated⟩,
      ⟨9, "db_size_in_use", .int64, .single⟩, ⟨10, "is_learner", .bool, .single⟩]
  | authenticate =>
    [⟨1, "header", .message header, .single⟩, ⟨2, "token", .text, .single⟩]
  | roles => [⟨1, "header", .message header, .single⟩, ⟨2, "roles", .text, .repeated⟩]
  | users => [⟨1, "header", .message header, .single⟩, ⟨2, "users", .text, .repeated⟩]
  | permission =>
    [⟨1, "perm_type", .enum, .single⟩, ⟨2, "key", .bytes, .single⟩,
      ⟨3, "range_end", .bytes, .single⟩]
  | permissions =>
    [⟨1, "header", .message header, .single⟩, ⟨2, "perm", .message permission, .repeated⟩]

end Schema
end EtcdClient
