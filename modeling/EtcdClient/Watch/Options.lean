import EtcdClient.Capabilities
import EtcdClient.KeyRange

/-
# Options of a watch

What a caller may ask of a watch beside the key. A revision at or below zero starts from the
current one and is passed through. A filter that is given twice counts once, where it is given
first.

Source: `SPEC_FULL.md` §4.2 and §10.6, `WatchOptions` with `validate` and `to_create_request`.
-/

namespace EtcdClient

/-- Events that a server is asked to leave out. -/
inductive WatchFilter
  | noPut
  | noDelete
  deriving DecidableEq

namespace WatchFilter

def all : List WatchFilter := [noPut, noDelete]

def text : WatchFilter → String
  | noPut => "NoPut"
  | noDelete => "NoDelete"

/-- The number of the filter in a request. -/
def number : WatchFilter → Int32
  | noPut => 0
  | noDelete => 1

end WatchFilter

/-- Options of a watch. -/
structure WatchOptions where
  range : KeyRange := .single
  startRevision : Int64 := 0
  progressNotify : Bool := false
  prevKv : Bool := false
  filters : List WatchFilter := []
  deriving DecidableEq

/-- The creation of a watch as it is sent. -/
structure WatchCreateRequest where
  range : WireRange
  startRevision : Int64
  progressNotify : Bool
  filters : List WatchFilter
  prevKv : Bool
  deriving DecidableEq

namespace WatchOptions

/-- The elements of a list in the order in which each of them stands first. -/
def distinct (fs : List WatchFilter) : List WatchFilter :=
  fs.foldl (fun seen f => if f ∈ seen then seen else seen ++ [f]) []

/-- Checks the previous pairs, then the filters. -/
def validate (o : WatchOptions) (c : Capabilities) : Result Unit := do
  c.requireIf o.prevKv .watchPrevKv
  c.requireIf (!o.filters.isEmpty) .watchFilters

/-- The creation of the watch for a key. -/
def request (o : WatchOptions) (key : Bytes) : WatchCreateRequest where
  range := o.range.resolve key
  startRevision := o.startRevision
  progressNotify := o.progressNotify
  filters := distinct o.filters
  prevKv := o.prevKv

end WatchOptions
end EtcdClient
