import EtcdClient.KeepAlive.Run
import EtcdClient.Watch.Run

/-
# Sessions of a client

A client checks what a session needs before it opens a stream, and its token goes with the stream
as with any request. A server may refuse the stream with a status; one of success is no refusal but
opens a stream that is at its end.

Source: `SPEC_FULL.md` §10.5, `keep_alive` and `watch`, which open `KeepAliveStream` and
`WatchStream`.
-/

namespace EtcdClient
namespace Client

/-- A status that refuses a stream. -/
def refusal (answer : Option Status) : Option Status := answer.filter (·.code ≠ .ok)

/-- Starts a watch, unless its options need a newer server. -/
def watch (c : Client) (key : Bytes) (options : WatchOptions) (handler : Behaviour)
    (answer : Option Status) : Result Watch.Run := do
  options.validate c.capabilities
  return .begin (options.request key) c.handshakeTimeout handler (refusal answer)

/-- Starts to keep a lease alive, whose number must be above zero. -/
def keepAlive (c : Client) (lease : Int64) (handler : Option Behaviour)
    (answer : Option Status) : Result KeepAlive.Run :=
  if lease ≤ 0 then .error (.invalidArgument (.notPositive "lease id" lease))
  else .ok (.begin lease {} c.handshakeTimeout handler (refusal answer))

/-- The requests of a session as the server reads them, with what goes along on the stream. -/
def onStream (c : Client) (requests : List Request) : List Sent := requests.map c.send

end Client
end EtcdClient
