import EtcdClient.Kv.Options

/-
# Transactions

A transaction has compare guards and two branches of operations: the first is run if all guards
hold, the second otherwise. It is built up by calls that each append to one of the three lists, so
calls for different lists may change places.

Source: `SPEC_FULL.md` §10.6; `Compare`, `TxnOp` and `Txn` with `when`, `and_then`, `or_else`,
`validate` and `to_request`.
-/

namespace EtcdClient

/-- The relation that a guard checks. -/
inductive Relation
  | equal
  | greater
  | less
  | notEqual
  deriving DecidableEq

/-- What a guard reads of a key. -/
inductive Attribute
  | version
  | create
  | modification
  | value
  deriving DecidableEq

/-- What a guard compares an attribute with. -/
inductive Operand
  | version (n : Int64)
  | createRevision (n : Int64)
  | modRevision (n : Int64)
  | value (b : Bytes)
  deriving DecidableEq

/-- The attribute that an operand is compared with. -/
def Operand.attribute : Operand → Attribute
  | .version _ => .version
  | .createRevision _ => .create
  | .modRevision _ => .modification
  | .value _ => .value

/-- A guard on the keys of a range. -/
structure Compare where
  key : Bytes
  range : KeyRange := .single
  relation : Relation
  operand : Operand
  deriving DecidableEq

/-- A guard as it is sent. -/
structure CompareRequest where
  relation : Relation
  target : Attribute
  range : WireRange
  operand : Operand
  deriving DecidableEq

/-- A guard names the attribute that its operand belongs to. -/
def Compare.request (c : Compare) : CompareRequest :=
  ⟨c.relation, c.operand.attribute, c.range.resolve c.key, c.operand⟩

/-- One operation of a branch. -/
inductive TxnOp
  | put (key value : Bytes) (options : PutOptions)
  | get (key : Bytes) (options : GetOptions)
  | delete (key : Bytes) (options : DeleteOptions)
  deriving DecidableEq

/-- One operation of a branch as it is sent. -/
inductive RequestOp
  | range (r : RangeRequest)
  | put (r : PutRequest)
  | deleteRange (r : DeleteRangeRequest)
  deriving DecidableEq

namespace TxnOp

/-- Checks the options of the operation. -/
def validate (c : Capabilities) : TxnOp → Result Unit
  | put _ _ options => options.validate c
  | get _ options => options.validate
  | delete _ options => options.validate c

/-- The operation as it is sent. -/
def request : TxnOp → RequestOp
  | put key value options => .put (options.request key value)
  | get key options => .range (options.request key)
  | delete key options => .deleteRange (options.request key)

end TxnOp

/-- A transaction. -/
structure Txn where
  compares : List Compare := []
  success : List TxnOp := []
  failure : List TxnOp := []
  deriving DecidableEq

/-- A transaction as it is sent. -/
structure TxnRequest where
  compares : List CompareRequest
  success : List RequestOp
  failure : List RequestOp
  deriving DecidableEq

namespace Txn

/-- A call that extends a transaction. -/
inductive Part
  | guards (compares : List Compare)
  | onSuccess (ops : List TxnOp)
  | onFailure (ops : List TxnOp)

/-- A call appends to the list that it is for. -/
def extend (t : Txn) : Part → Txn
  | .guards compares => { t with compares := t.compares ++ compares }
  | .onSuccess ops => { t with success := t.success ++ ops }
  | .onFailure ops => { t with failure := t.failure ++ ops }

/-- The transaction that calls in order build. -/
def ofParts (parts : List Part) : Txn := parts.foldl extend {}

/-- The operations in the order in which they are checked. -/
def operations (t : Txn) : List TxnOp := t.success ++ t.failure

/-- Checks the operations one after the other; guards need no check. -/
def validate (t : Txn) (c : Capabilities) : Result Unit := t.operations.forM (·.validate c)

/-- The transaction as it is sent, its lists in order. -/
def request (t : Txn) : TxnRequest :=
  ⟨t.compares.map Compare.request, t.success.map TxnOp.request, t.failure.map TxnOp.request⟩

end Txn
end EtcdClient
