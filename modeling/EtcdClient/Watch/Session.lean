import EtcdClient.Session.Basic
import EtcdClient.Watch.Response

/-
# The state of a watch session

What a watch session consists of. Closing it asks the server to cancel the watch, if its number is
known, and then ends the sending side. That happens once, whoever closes the session first.

Source: `SPEC_FULL.md` §4.2, `half_close` of `WatchShared`.
-/

namespace EtcdClient
namespace Watch

/-- A watch session. -/
structure Session where
  closed : Bool := false
  /-- The number of the watch, known once the session is ready. -/
  watchId : Option Int64 := none
  /-- The sending side is open. -/
  sending : Bool := true
  /-- The server reads what is sent. -/
  listening : Bool := true
  /-- The requests that the server read. -/
  requests : List Request := []

namespace Session

/-- Sends a request. -/
def send (s : Session) (r : Request) : Session :=
  if s.sending && s.listening then { s with requests := s.requests ++ [r] } else s

/-- Asks the server to cancel the watch. -/
def sendCancel (s : Session) : Session :=
  match s.watchId with
  | some id => s.send (.watchCancel id)
  | none => s

/-- Closes the session; a closed one stays as it is. -/
def halfClose (s : Session) : Session :=
  if s.closed then s else { s.sendCancel with closed := true, sending := false }

end Session
end Watch
end EtcdClient
