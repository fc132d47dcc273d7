import EtcdClient.Capabilities
import EtcdClient.KeyRange

/-
# Options of key-value requests

What a caller may ask of a get, a put and a delete beside the key. Options are checked before a
request is made of them, whether their numbers make sense and whether the server understands what
they ask for; a check that fails is reported alone, the first in this order:

| request | checks |
| --- | --- |
| get | limit, then revision, not negative |
| put | lease id not negative; previous pair, ignored value, ignored lease understood |
| delete | previous pairs understood |

A request carries the options as they are given, the range as `KeyRange.resolve` writes it.

Source: `SPEC_FULL.md` §10.6, `GetOptions`, `PutOptions` and `DeleteOptions`, each with `validate`
and `to_request`.
-/

namespace EtcdClient

/-- The direction in which pairs are sorted. -/
inductive SortOrder
  | none
  | ascend
  | descend
  deriving DecidableEq

namespace SortOrder

def all : List SortOrder := [none, ascend, descend]

def text : SortOrder → String
  | none => "None"
  | ascend => "Ascend"
  | descend => "Descend"

/-- The number of the direction in a request. -/
def number : SortOrder → Int32
  | none => 0
  | ascend => 1
  | descend => 2

end SortOrder

/-- What pairs are sorted by. -/
inductive SortTarget
  | key
  | version
  | create
  | modification
  | value
  deriving DecidableEq

namespace SortTarget

def all : List SortTarget := [key, version, create, modification, value]

def text : SortTarget → String
  | key => "Key"
  | version => "Version"
  | create => "Create"
  | modification => "Mod"
  | value => "Value"

/-- The number of the attribute in a request. -/
def number : SortTarget → Int32
  | key => 0
  | version => 1
  | create => 2
  | modification => 3
  | value => 4

end SortTarget

/-- Refuses a number below zero. -/
def notNegative (what : String) (n : Int64) : Result Unit :=
  if n < 0 then .error (.invalidArgument (.negative what n)) else .ok ()

/-- Options of a get. A limit of zero is none, revision zero the latest. -/
structure GetOptions where
  range : KeyRange := .single
  limit : Int64 := 0
  revision : Int64 := 0
  sortOrder : SortOrder := .none
  sortTarget : SortTarget := .key
  serializable : Bool := false
  keysOnly : Bool := false
  countOnly : Bool := false
  minModRevision : Int64 := 0
  maxModRevision : Int64 := 0
  minCreateRevision : Int64 := 0
  maxCreateRevision : Int64 := 0
  deriving DecidableEq

/-- A get as it is sent. -/
structure RangeRequest where
  range : WireRange
  limit : Int64
  revision : Int64
  sortOrder : SortOrder
  sortTarget : SortTarget
  serializable : Bool
  keysOnly : Bool
  countOnly : Bool
  minModRevision : Int64
  maxModRevision : Int64
  minCreateRevision : Int64
  maxCreateRevision : Int64
  deriving DecidableEq

namespace GetOptions

/-- Checks the limit, then the revision. -/
def validate (o : GetOptions) : Result Unit := do
  notNegative "limit" o.limit
  notNegative "revision" o.revision

/-- The get for a key. -/
def request (o : GetOptions) (key : Bytes) : RangeRequest where
  range := o.range.resolve key
  limit := o.limit
  revision := o.revision
  sortOrder := o.sortOrder
  sortTarget := o.sortTarget
  serializable := o.serializable
  keysOnly := o.keysOnly
  countOnly := o.countOnly
  minModRevision := o.minModRevision
  maxModRevision := o.maxModRevision
  minCreateRevision := o.minCreateRevision
  maxCreateRevision := o.maxCreateRevision

end GetOptions

/-- Options of a put. Lease zero is none. -/
structure PutOptions where
  leaseId : Int64 := 0
  prevKv : Bool := false
  ignoreValue : Bool := false
  ignoreLease : Bool := false
  deriving DecidableEq

/-- A put as it is sent. -/
structure PutRequest where
  key : Bytes
  value : Bytes
  options : PutOptions
  deriving DecidableEq

namespace PutOptions

/-- Checks the lease id, then each option that not every server understands. -/
def validate (o : PutOptions) (c : Capabilities) : Result Unit := do
  notNegative "lease id" o.leaseId
  c.requireIf o.prevKv .putPrevKv
  c.requireIf o.ignoreValue .putIgnoreValue
  c.requireIf o.ignoreLease .putIgnoreLease

/-- The put of a value under a key. -/
def request (o : PutOptions) (key value : Bytes) : PutRequest := ⟨key, value, o⟩

end PutOptions

/-- Options of a delete. -/
structure DeleteOptions where
  range : KeyRange := .single
  prevKv : Bool := false
  deriving DecidableEq

/-- A delete as it is sent. -/
structure DeleteRangeRequest where
  range : WireRange
  prevKv : Bool
  deriving DecidableEq

namespace DeleteOptions

/-- Checks the one option that not every server understands. -/
def validate (o : DeleteOptions) (c : Capabilities) : Result Unit :=
  c.requireIf o.prevKv .deletePrevKv

/-- The delete for a key. -/
def request (o : DeleteOptions) (key : Bytes) : DeleteRangeRequest :=
  ⟨o.range.resolve key, o.prevKv⟩

end DeleteOptions
end EtcdClient
