import EtcdClient.Wire.Message

/-
# Parts of responses

The header of all responses, key-value pairs, and the events that a watch reports, as types of
their own. Each is read from a message and written as one.

Source: `ResponseHeader` of `rpc.proto`, `KeyValue` and `Event` of `kv.proto`.
-/

namespace EtcdClient

/-- Who answered, and at which revision. -/
structure ResponseHeader where
  clusterId : UInt64
  memberId : UInt64
  revision : Int64
  raftTerm : UInt64
  deriving DecidableEq

namespace ResponseHeader

def ofMessage (m : Message) : ResponseHeader := ⟨m.uint64 1, m.uint64 2, m.int64 3, m.uint64 4⟩

def message (h : ResponseHeader) : Message :=
  Field.plain 1 "cluster_id" (.uint64 h.clusterId) ++
  Field.plain 2 "member_id" (.uint64 h.memberId) ++
  Field.plain 3 "revision" (.int64 h.revision) ++
  Field.plain 4 "raft_term" (.uint64 h.raftTerm)

end ResponseHeader

/-- A key with its value and history. -/
structure KeyValue where
  key : Bytes
  createRevision : Int64
  modRevision : Int64
  version : Int64
  value : Bytes
  lease : Int64
  deriving DecidableEq

namespace KeyValue

def ofMessage (m : Message) : KeyValue :=
  ⟨m.bytes 1, m.int64 2, m.int64 3, m.int64 4, m.bytes 5, m.int64 6⟩

def message (p : KeyValue) : Message :=
  Field.plain 1 "key" (.bytes p.key) ++
  Field.plain 2 "create_revision" (.int64 p.createRevision) ++
  Field.plain 3 "mod_revision" (.int64 p.modRevision) ++
  Field.plain 4 "version" (.int64 p.version) ++
  Field.plain 5 "value" (.bytes p.value) ++
  Field.plain 6 "lease" (.int64 p.lease)

end KeyValue

/-- A change of a key; the type is 0 for a put and 1 for a delete. -/
structure Event where
  type : Int32
  kv : Option KeyValue
  prevKv : Option KeyValue
  deriving DecidableEq

namespace Event

def ofMessage (m : Message) : Event :=
  ⟨m.enum 1, (m.message? 2).map KeyValue.ofMessage, (m.message? 3).map KeyValue.ofMessage⟩

def message (e : Event) : Message :=
  Field.plain 1 "type" (.enum e.type) ++
  Field.optional 2 "kv" (e.kv.map KeyValue.message) ++
  Field.optional 3 "prev_kv" (e.prevKv.map KeyValue.message)

end Event
end EtcdClient
