import EtcdClient.Wire.Response

/-
# Keep-alive responses

The server answers each heartbeat with the time to live that the lease has now, in seconds; the
answer for a lease that does not exist has none left.

Source: the message `LeaseKeepAliveResponse` of `rpc.proto`.
-/

namespace EtcdClient

/-- The answer to a heartbeat. -/
structure KeepAliveResponse where
  header : Option ResponseHeader := none
  id : Int64
  ttl : Int64
  deriving DecidableEq

namespace KeepAliveResponse

def ofMessage (m : Message) : KeepAliveResponse :=
  ⟨(m.message? 1).map ResponseHeader.ofMessage, m.int64 2, m.int64 3⟩

def message (r : KeepAliveResponse) : Message :=
  Field.optional 1 "header" (r.header.map ResponseHeader.message) ++
  Field.plain 2 "id" (.int64 r.id) ++
  Field.plain 3 "ttl" (.int64 r.ttl)

end KeepAliveResponse
end EtcdClient
