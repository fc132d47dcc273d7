import EtcdClient.Wire.Response

/-
# Watch responses

A response of a watch confirms that it was created, says that it was canceled, reports events, or
does several of these at once.

Source: the message `WatchResponse` of `rpc.proto`.
-/

namespace EtcdClient

/-- What a server says about a watch. -/
structure WatchResponse where
  header : Option ResponseHeader := none
  watchId : Int64
  created : Bool := false
  canceled : Bool := false
  compactRevision : Int64 := 0
  cancelReason : String := ""
  fragment : Bool := false
  events : List Event := []
  deriving DecidableEq

namespace WatchResponse

/-- The event that an element of a list is. -/
def event? : Value → Option Event
  | .message m => some (Event.ofMessage m)
  | _ => none

def ofMessage (m : Message) : WatchResponse where
  header := (m.message? 1).map ResponseHeader.ofMessage
  watchId := m.int64 2
  created := m.bool 3
  canceled := m.bool 4
  compactRevision := m.int64 5
  cancelReason := m.text 6
  fragment := m.bool 7
  events := (m.list 11).filterMap event?

def message (r : WatchResponse) : Message :=
  Field.optional 1 "header" (r.header.map ResponseHeader.message) ++
  Field.plain 2 "watch_id" (.int64 r.watchId) ++
  Field.plain 3 "created" (.bool r.created) ++
  Field.plain 4 "canceled" (.bool r.canceled) ++
  Field.plain 5 "compact_revision" (.int64 r.compactRevision) ++
  Field.plain 6 "cancel_reason" (.text r.cancelReason) ++
  Field.plain 7 "fragment" (.bool r.fragment) ++
  Field.plain 11 "events" (.list (r.events.map (.message ·.message)))

end WatchResponse
end EtcdClient
